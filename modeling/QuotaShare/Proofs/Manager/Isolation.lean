import QuotaShare.Proofs.Manager.Run

/-!
# Isolation of tables

What becomes of a table, and how queries against it are answered, depends on the operations that
concern the table alone.  Two managers that agree on a table do so after every operation, and an
operation that does not concern the table changes nothing on which they have to agree; so leaving
such operations out of a run makes no difference to the table.
-/

namespace QuotaShare

/-- Whether an operation concerns a table: it registers or drops it, is a query against a name that
stands for it, or is about every table. -/
def Operation.concerns (table : String) : Operation → Bool
  | .init _ config _ => config.table == table
  | .drop other => other == table
  | .clear => true
  | .acquire _ name => (Target.resolve name).names.contains table
  | .process .. => true

namespace Manager

/-- The answer to an operation, if it is a query against a name. -/
def answer? (m : Manager) (name : String) : Operation → Option Bool
  | .acquire now other =>
    if other = name then some (m.acquire now other).value.admitted else none
  | _ => none

/-- The answers to the queries against a name, in their order. -/
def answers (m : Manager) (name : String) : List (Lookups × Operation) → List Bool
  | [] => []
  | (lookups, operation) :: later =>
    (m.answer? name operation).toList ++ (m.perform lookups operation).answers name later

/-- Whether two managers keep the same for a table, and whatever else bears on what becomes of the
table is the same for both. -/
structure AgreeOn (table : String) (m m' : Manager) : Prop where
  entity : m.entity? table = m'.entity? table
  localNode : m.localNode = m'.localNode
  settings : m.settings = m'.settings
  lastVersion : m.lastVersion = m'.lastVersion

namespace AgreeOn

variable {table : String} {m m' m'' : Manager}

theorem refl (table : String) (m : Manager) :
  AgreeOn table m m
  := ⟨rfl, rfl, rfl, rfl⟩

theorem trans (h : AgreeOn table m m') (h' : AgreeOn table m' m'') :
  AgreeOn table m m''
  := by
  constructor
  · rw [h.entity, h'.entity]
  · rw [h.localNode, h'.localNode]
  · rw [h.settings, h'.settings]
  · rw [h.lastVersion, h'.lastVersion]

/-! ### One operation -/

/-- What a pass decides about a table depends on the node and its settings, apart from the table. -/
theorem reconsider_eq (h : AgreeOn table m m') (lookups : Lookups) (view : View) (now : Nat)
    (e : Entity) :
  m.reconsider lookups view now table e = m'.reconsider lookups view now table e
  := by
  obtain ⟨localNode, sink, settings, registry, lastVersion⟩ := m
  obtain ⟨localNode', sink', settings', registry', lastVersion'⟩ := m'
  obtain rfl : localNode = localNode' := h.localNode
  obtain rfl : settings = settings' := h.settings
  rfl

theorem entity?_perform (h : AgreeOn table m m') (lookups : Lookups) (operation : Operation) :
  (m.perform lookups operation).entity? table = (m'.perform lookups operation).entity? table
  := by
  cases operation with
  | init now config view =>
      rw [Manager.perform, Manager.perform, entity?_init, entity?_init, value_register?,
        value_register?, h.entity, h.localNode, h.settings]
  | drop other => rw [Manager.perform, Manager.perform, entity?_drop, entity?_drop, h.entity]
  | clear => rw [Manager.perform, Manager.perform, entity?_clear, entity?_clear]
  | acquire now name =>
      rw [Manager.perform, Manager.perform, entity?_acquire, entity?_acquire, h.entity]
  | process now view =>
      rw [Manager.perform, Manager.perform, value_process, value_process, h.lastVersion]
      cases view with
      | none => apply h.entity
      | some view =>
          simp only
          split
          · apply h.entity
          · rw [entity?_passed, entity?_passed, h.entity]
            apply Option.bind_congr
            intro e _
            rw [h.reconsider_eq]

/-- Managers that agree on a table agree on it after every operation. -/
theorem perform (h : AgreeOn table m m') (lookups : Lookups) (operation : Operation) :
  AgreeOn table (m.perform lookups operation) (m'.perform lookups operation)
  := by
  obtain ⟨hnode, hsettings⟩ := m.fixed_perform lookups operation
  obtain ⟨hnode', hsettings'⟩ := m'.fixed_perform lookups operation
  constructor
  · apply h.entity?_perform
  · rw [hnode, hnode', h.localNode]
  · rw [hsettings, hsettings', h.settings]
  · rw [lastVersion_perform, lastVersion_perform, h.lastVersion]

/-- An operation that does not concern a table changes nothing of it. -/
theorem perform_of_not_concerns (m : Manager) (lookups : Lookups) {operation : Operation}
    (h : operation.concerns table = false) :
  AgreeOn table (m.perform lookups operation) m
  := by
  obtain ⟨hnode, hsettings⟩ := m.fixed_perform lookups operation
  constructor
  · cases operation with
    | init now config view =>
        rw [Manager.perform, entity?_init, if_neg (ne_of_beq_false h)]
    | drop other => rw [Manager.perform, entity?_drop, if_neg (ne_of_beq_false h)]
    | clear => cases h
    | acquire now name =>
        have hcount : (Target.resolve name).names.count table = 0 := by
          apply List.count_eq_zero.mpr
          intro hmem
          cases h.symm.trans (List.contains_iff_mem.mpr hmem)
        rw [Manager.perform, entity?_acquire, hcount]
        apply Option.map_id'
    | process now view => cases h
  · apply hnode
  · apply hsettings
  · rw [lastVersion_perform]
    cases operation with
    | process now view => cases h
    | _ => rfl

/-- Managers that agree on a table give the same answer to a query against it, if its name is
qualified. -/
theorem answer?_eq (h : AgreeOn table m m') (hqualified : (Variant.ofName? table).isSome = true)
    (operation : Operation) :
  m.answer? table operation = m'.answer? table operation
  := by
  cases operation with
  | acquire now name =>
      rw [answer?, answer?]
      split
      · rename_i hname
        rw [hname, admitted_acquire _ hqualified, admitted_acquire _ hqualified, h.entity]
      · rfl
  | _ => rfl

/-- A query against a qualified name concerns its table. -/
theorem answer?_of_not_concerns (m : Manager) (hqualified : (Variant.ofName? table).isSome = true)
    {operation : Operation} (h : operation.concerns table = false) :
  m.answer? table operation = none
  := by
  cases operation with
  | acquire now name =>
      apply if_neg
      rintro rfl
      rw [Operation.concerns, Target.names_resolve hqualified] at h
      cases h.symm.trans (List.contains_iff_mem.mpr List.mem_cons_self)
  | _ => rfl

/-! ### Runs -/

/-- Managers that agree on a table still do so after one of them performed a run, and the other only
what concerns the table. -/
theorem run_filter (h : AgreeOn table m m') (operations : List (Lookups × Operation)) :
  AgreeOn table (m.run operations) (m'.run (operations.filter fun o => o.2.concerns table))
  := by
  induction operations generalizing m m' with
  | nil => apply h
  | cons o operations ih =>
      obtain ⟨lookups, operation⟩ := o
      rw [List.filter_cons]
      cases hconcerns : operation.concerns table with
      | true => apply ih (h.perform lookups operation)
      | false => apply ih ((perform_of_not_concerns m lookups hconcerns).trans h)

/-- They give the same answers to the queries against the table, if its name is qualified. -/
theorem answers_filter (h : AgreeOn table m m')
    (hqualified : (Variant.ofName? table).isSome = true)
    (operations : List (Lookups × Operation)) :
  m.answers table operations = m'.answers table (operations.filter fun o => o.2.concerns table)
  := by
  induction operations generalizing m m' with
  | nil => rfl
  | cons o operations ih =>
      obtain ⟨lookups, operation⟩ := o
      rw [List.filter_cons, answers]
      cases hconcerns : operation.concerns table with
      | true =>
          rw [h.answer?_eq hqualified, ih (h.perform lookups operation)]
          rfl
      | false =>
          rw [answer?_of_not_concerns m hqualified hconcerns,
            ih ((perform_of_not_concerns m lookups hconcerns).trans h)]
          rfl

end AgreeOn

end Manager

/-- Leaving out of a run whatever does not concern a table, which are the queries against names that
do not stand for it and the registration and removal of other tables, makes no difference to what is
kept for the table in the end, nor, if its name is qualified, to the answers to the queries against
it. -/
theorem isolated (m : Manager) {table : String}
    (hqualified : (Variant.ofName? table).isSome = true)
    (operations : List (Lookups × Operation)) :
  (m.run operations).entity? table =
      (m.run (operations.filter fun o => o.2.concerns table)).entity? table ∧
    m.answers table operations =
      m.answers table (operations.filter fun o => o.2.concerns table)
  := by
  have h := Manager.AgreeOn.refl table m
  use (h.run_filter operations).entity
  apply h.answers_filter hqualified

/-- Queries against a table between the registration, removal and use of others, one of them its
sibling, and a pass that evicts another one: of twelve operations seven are left. -/
theorem isolated_from_traffic :
  let m := Manager.start "n1" none QuotaSettings.default
  let quota : Option Quota := some ⟨some "1"⟩
  let lookups := (Store.ofConfigs [⟨"t_OFFLINE", quota⟩, ⟨"t_REALTIME", quota⟩,
    ⟨"u_OFFLINE", quota⟩]).lookups
  let view (version : UInt64) (tables : List String) : View :=
    ⟨version, .ofPairs (tables.map fun table => (table, .ofPairs [("n1", .online)]))⟩
  let first := view 1 ["t_OFFLINE", "t_REALTIME", "u_OFFLINE"]
  let operations : List (Lookups × Operation) := [
    .init 0 ⟨"t_OFFLINE", quota⟩ (some first), .init 0 ⟨"t_REALTIME", quota⟩ (some first),
    .init 0 ⟨"u_OFFLINE", quota⟩ (some first), .acquire 0 "t_REALTIME", .acquire 0 "t",
    .acquire 1 "t_OFFLINE", .acquire 2 "u", .process 3 (some (view 2 ["t_OFFLINE", "t_REALTIME"])),
    .drop "t_REALTIME", .acquire 1000000001 "t_OFFLINE", .acquire 2000000000 "t",
    .acquire 2000000000 "t_OFFLINE"].map (lookups, ·)
  let kept := operations.filter fun o => o.2.concerns "t_OFFLINE"
  (Variant.ofName? "t_OFFLINE").isSome = true ∧ kept.length = 7 ∧
    m.answers "t_OFFLINE" kept = [false, true, false] ∧
    (m.run operations).entity? "t_OFFLINE" = (m.run kept).entity? "t_OFFLINE" ∧
    m.answers "t_OFFLINE" operations = m.answers "t_OFFLINE" kept
  := by
  intro m quota lookups view first operations kept
  have hqualified : (Variant.ofName? "t_OFFLINE").isSome = true := by decide +kernel
  have hlength : kept.length = 7 := by decide +kernel
  have hanswers : m.answers "t_OFFLINE" kept = [false, true, false] := by decide +kernel
  exact ⟨hqualified, hlength, hanswers, isolated m hqualified operations⟩

end QuotaShare
