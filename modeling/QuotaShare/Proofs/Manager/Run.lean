import QuotaShare.Manager.Builder
import QuotaShare.Proofs.Manager.Tables

/-!
# Runs of a manager

Operations of a manager one after the other, each with answers of its own about the stored quotas.
In a service the answers are those of a store, which is written in between.  Whatever an operation
is, a table that is tracked after it was registered by it, or was tracked before and either was at most
charged or was looked at by a pass.
-/

namespace QuotaShare

/-- An operation of a manager. -/
inductive Operation where
  /-- Starts to track a table. -/
  | init (now : Nat) (config : TableConfig) (view : Option View)
  /-- Stops tracking a table. -/
  | drop (table : String)
  /-- Stops tracking every table. -/
  | clear
  /-- Charges a query. -/
  | acquire (now : Nat) (name : String)
  /-- Makes a pass. -/
  | process (now : Nat) (view : Option View)

namespace Manager

/-- The manager after an operation. -/
def perform (m : Manager) (lookups : Lookups) : Operation → Manager
  | .init now config view => (m.init lookups now config view).value.1
  | .drop table => (m.drop table).value
  | .clear => m.clear
  | .acquire now name => (m.acquire now name).value.manager
  | .process now view => (m.process lookups now view).value.1

/-- The manager after operations, each with its own answers about the stored quotas. -/
def run (m : Manager) (operations : List (Lookups × Operation)) : Manager :=
  operations.foldl (fun m (lookups, operation) => m.perform lookups operation) m

/-! ### What no operation changes -/

/-- An operation changes nothing of a manager but its registry, and its last version if it is a pass
with a view. -/
theorem exists_registry_perform (m : Manager) (lookups : Lookups) (operation : Operation) :
  ∃ registry, m.perform lookups operation =
    { m with
      registry
      lastVersion :=
        match operation with
        | .process _ (some view) => some view.version
        | _ => m.lastVersion }
  := by
  cases operation with
  | init now config view =>
      rw [perform, value_init]
      cases (m.register? lookups config view).value <;> exact ⟨_, rfl⟩
  | drop table => exact ⟨_, rfl⟩
  | clear => exact ⟨_, rfl⟩
  | acquire now name => apply m.exists_registry_acquireAll now (Target.resolve name).names
  | process now view =>
      rw [perform, value_process]
      cases view with
      | none => exact ⟨_, rfl⟩
      | some view =>
          simp only
          split
          · rename_i hversion
            use m.registry
            rw [← hversion]
          · exact ⟨_, rfl⟩

/-- No operation changes the node or its settings. -/
theorem fixed_perform (m : Manager) (lookups : Lookups) (operation : Operation) :
  (m.perform lookups operation).localNode = m.localNode ∧
    (m.perform lookups operation).settings = m.settings
  := by
  obtain ⟨registry, h⟩ := m.exists_registry_perform lookups operation
  rw [h]
  exact ⟨rfl, rfl⟩

/-- After a pass with a view, the last version is that of the view. -/
theorem lastVersion_perform (m : Manager) (lookups : Lookups) (operation : Operation) :
  (m.perform lookups operation).lastVersion =
    match operation with
    | .process _ (some view) => some view.version
    | _ => m.lastVersion
  := by
  obtain ⟨registry, h⟩ := m.exists_registry_perform lookups operation
  rw [h]

theorem fixed_run (m : Manager) (operations : List (Lookups × Operation)) :
  (m.run operations).localNode = m.localNode ∧ (m.run operations).settings = m.settings
  := by
  induction operations generalizing m with
  | nil => exact ⟨rfl, rfl⟩
  | cons operation operations ih =>
      have h := ih (m.perform operation.1 operation.2)
      rw [(fixed_perform ..).1, (fixed_perform ..).2] at h
      apply h

/-! ### What an operation does to a table -/

/-- A table that is tracked after an operation was registered by it, was tracked before and at most
charged by an operation that leaves the last version as it is, or is tracked on after a pass over a
view with a new version. -/
theorem entity?_perform {m : Manager} {lookups : Lookups} {operation : Operation} {table : String}
    {e' : Entity} (h : (m.perform lookups operation).entity? table = some e') :
  (∃ now config view s, operation = .init now config view ∧ config.table = table ∧
    (m.register? lookups config view).value = some s ∧
    e' = Entity.start s m.settings.window m.settings.burst now) ∨
  (∃ e now k, m.entity? table = some e ∧ e' = e.charge now k ∧
    (m.perform lookups operation).lastVersion = m.lastVersion) ∨
  (∃ now view e, operation = .process now (some view) ∧ m.lastVersion ≠ some view.version ∧
    m.entity? table = some e ∧ (m.reconsider lookups view now table e).value.entity? = some e')
  := by
  have hlast := m.lastVersion_perform lookups operation
  cases operation with
  | init now config view =>
      rw [perform, entity?_init] at h
      split at h
      · rename_i htable
        cases hs : (m.register? lookups config view).value with
        | none =>
            rw [hs] at h
            right; left
            exact ⟨e', now, 0, h, rfl, hlast⟩
        | some s =>
            rw [hs] at h
            cases h
            left
            use now, config, view, s
      · right; left
        exact ⟨e', now, 0, h, rfl, hlast⟩
  | drop other =>
      rw [perform, entity?_drop] at h
      split at h
      · cases h
      · right; left
        exact ⟨e', 0, 0, h, rfl, hlast⟩
  | clear =>
      rw [perform, entity?_clear] at h
      cases h
  | acquire now name =>
      rw [perform, entity?_acquire] at h
      obtain ⟨e, he, rfl⟩ := Option.map_eq_some_iff.mp h
      right; left
      exact ⟨e, now, _, he, rfl, hlast⟩
  | process now view =>
      rw [perform, value_process] at h
      cases view with
      | none =>
          right; left
          exact ⟨e', now, 0, h, rfl, hlast⟩
      | some view =>
          simp only at h
          split at h
          · rename_i hversion
            right; left
            exact ⟨e', now, 0, h, rfl, hlast.trans hversion.symm⟩
          · rw [entity?_passed] at h
            obtain ⟨e, he, hverdict⟩ := Option.bind_eq_some_iff.mp h
            right; right
            use now, view, e

end Manager

/-! ### Services -/

/-- Something that happens to a manager and its store. -/
inductive Action where
  /-- The quota of a table is written. -/
  | write (table : String) (quota : Option Quota)
  /-- A table is deleted from the store. -/
  | delete (table : String)
  /-- The manager performs an operation, with the answers of the store. -/
  | perform (operation : Operation)

namespace Service

/-- The service after something happened to it. -/
def step (s : Service) : Action → Service
  | .write table quota => { s with store := (s.store.set table quota).value.1 }
  | .delete table => { s with store := (s.store.delete table).1 }
  | .perform operation => { s with manager := s.manager.perform s.store.lookups operation }

/-- The service after things happened to it, one after the other. -/
def run (s : Service) (actions : List Action) : Service :=
  actions.foldl step s

/-- The manager of a service only performs operations. -/
theorem manager_run (s : Service) (actions : List Action) :
  ∃ operations, (s.run actions).manager = s.manager.run operations
  := by
  induction actions generalizing s with
  | nil => exact ⟨[], rfl⟩
  | cons action actions ih =>
      obtain ⟨operations, h⟩ := ih (s.step action)
      cases action with
      | write table quota => use operations, h
      | delete table => use operations, h
      | perform operation => use (s.store.lookups, operation) :: operations, h

end Service

end QuotaShare
