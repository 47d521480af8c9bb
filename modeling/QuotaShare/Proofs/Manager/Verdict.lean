import Mathlib.Tactic.Use
import QuotaShare.Manager.Pass

/-!
# Verdicts of a pass

What a pass decides about one table.  The inputs of a table's rate are found exactly when the view
and the store know the table and its overall rate is known, and a table whose inputs are found is
tracked on in one of three ways.
-/

namespace QuotaShare

namespace Verdict

/-- What is kept for a table after a verdict. -/
def entity? : Verdict → Option Entity
  | keep e => some e
  | rebuild e => some e
  | evict => none

/-- Whether a limiter is to get a new rate. -/
def isRebuild : Verdict → Bool
  | rebuild _ => true
  | _ => false

/-- Whether a table is not to be tracked on. -/
def isEvict : Verdict → Bool
  | evict => true
  | _ => false

theorem isEvict_eq (v : Verdict) :
  v.isEvict = v.entity?.isNone
  := by
  cases v <;> rfl

end Verdict

/-- A stored rate is usable. -/
theorem Quota.usable_of_rate? {q : Quota} {x : Float} (h : q.rate? = some x) :
  Scalar.usable x = true
  := (Option.filter_eq_some_iff.mp h).2

/-- The local node is counted already, so the count of online nodes is not raised. -/
theorem Snapshot.nodes_ofInputs (view : View) (table localNode : String) (overall : Float)
    (version : UInt64) :
  (ofInputs (view.onlineCount table localNode) overall version).nodes =
    view.onlineCount table localNode
  := Nat.max_eq_left (Nat.le_add_left 1 _)

namespace Manager

/-! ### Look-ups -/

theorem value_storedVersion (lookups : Lookups) (table : String) :
  (storedVersion lookups table).value = (lookups.version table).toOption.join
  := by
  rw [storedVersion]
  cases lookups.version table <;> rfl

/-- What is found is what is answered, neither failing nor empty. -/
theorem join_toOption_eq_some_iff {α : Type} {x : Except QuotaError (Option α)} {a : α} :
  x.toOption.join = some a ↔ x = .ok (some a)
  := by
  cases x with
  | error e =>
      constructor
      · intro h
        cases h
      · intro h
        cases h
  | ok x =>
      change x = some a ↔ Except.ok x = Except.ok (some a)
      rw [Except.ok.injEq]

theorem value_storedRate (lookups : Lookups) (table : String) :
  (storedRate lookups table).value = (lookups.quota table).toOption.join.bind Quota.rate?
  := by
  rw [storedRate]
  cases lookups.quota table <;> rfl

theorem value_overallAt (lookups : Lookups) (table : String) (previous : Snapshot)
    (version : UInt64) :
  (overallAt lookups table previous version).value =
    if version = previous.version then some previous.overall
    else (lookups.quota table).toOption.join.bind Quota.rate?
  := by
  rw [overallAt, ← value_storedRate]
  split <;> rfl

theorem value_overallAt_eq_some_iff {lookups : Lookups} {table : String} {previous : Snapshot}
    {version : UInt64} {overall : Float} :
  (overallAt lookups table previous version).value = some overall ↔
    (version = previous.version → overall = previous.overall) ∧
      (version ≠ previous.version →
        ∃ quota, lookups.quota table = .ok (some quota) ∧ quota.rate? = some overall)
  := by
  rw [value_overallAt]
  split
  · rename_i hsame
    rw [Option.some.injEq, eq_comm]
    constructor
    · intro h
      use fun _ => h
      intro hnew
      cases hnew hsame
    · intro h
      apply h.1 hsame
  · rename_i hnew
    rw [Option.bind_eq_some_iff]
    simp only [join_toOption_eq_some_iff]
    constructor
    · intro h
      use fun hsame => (hnew hsame).elim
      intro _
      apply h
    · intro h
      apply h.2 hnew

/-- An overall rate that was taken over or read again is usable. -/
theorem usable_overallAt {lookups : Lookups} {table : String} {previous : Snapshot}
    {version : UInt64} {overall : Float} (hprevious : Scalar.usable previous.overall = true)
    (h : (overallAt lookups table previous version).value = some overall) :
  Scalar.usable overall = true
  := by
  rw [value_overallAt] at h
  split at h
  · cases h
    apply hprevious
  · obtain ⟨quota, _, hrate⟩ := Option.bind_eq_some_iff.mp h
    apply Quota.usable_of_rate? hrate

/-! ### The inputs of a table's rate -/

variable (m : Manager)

theorem value_latest? (lookups : Lookups) (view : View) (table : String) (previous : Snapshot) :
  (m.latest? lookups view table previous).value =
    (view.states? table).bind fun states =>
      (lookups.version table).toOption.join.bind fun version =>
        (overallAt lookups table previous version).value.map fun overall =>
          Snapshot.ofInputs (NodeStates.onlineCount (some states) m.localNode) overall version
  := by
  have hversion := value_storedVersion lookups table
  rw [latest?]
  cases view.states? table with
  | none => rfl
  | some states =>
      simp only [Traced.value_bind, hversion, Option.bind_some]
      cases (lookups.version table).toOption.join with
      | none => rfl
      | some version =>
          simp only [Traced.value_bind, Option.bind_some]
          cases (overallAt lookups table previous version).value <;> rfl

/-- Inputs that are found are those that the view and the store tell of. -/
theorem exists_of_latest? {lookups : Lookups} {view : View} {table : String}
    {previous latest : Snapshot} (h : (m.latest? lookups view table previous).value = some latest) :
  ∃ version overall, (lookups.version table).toOption.join = some version ∧
    (overallAt lookups table previous version).value = some overall ∧
    latest = Snapshot.ofInputs (view.onlineCount table m.localNode) overall version
  := by
  rw [value_latest?] at h
  obtain ⟨states, hstates, h⟩ := Option.bind_eq_some_iff.mp h
  obtain ⟨version, hversion, h⟩ := Option.bind_eq_some_iff.mp h
  obtain ⟨overall, hoverall, hlatest⟩ := Option.map_eq_some_iff.mp h
  use version, overall, hversion, hoverall
  rw [View.onlineCount, hstates, hlatest]

/-! ### What becomes of an entity -/

/-- An entity whose inputs are found is tracked on: as it was apart from its snapshot, when the
number of nodes and the overall rate are the same; at a new rate, when its share differs; and at its
rate otherwise. -/
theorem entity?_adopt (now : Nat) (table : String) (e : Entity) (latest : Snapshot) :
  ∃ e', (m.adopt now table e latest).value.entity? = some e' ∧
    ((latest.nodes = e.snapshot.nodes ∧ (latest.overall == e.snapshot.overall) = true ∧
        e'.limiter = e.limiter ∧
        (e'.snapshot = latest ∨ latest.version = e.snapshot.version ∧ e'.snapshot = e.snapshot)) ∨
      (m.differs latest.share e.limiter.rate = true ∧ e'.snapshot = latest ∧
        e'.limiter = e.limiter.setRate latest.share now) ∨
      (m.differs latest.share e.limiter.rate = false ∧ e'.snapshot = latest ∧
        e'.limiter = e.limiter))
  := by
  rw [adopt]
  split
  · rename_i hsame
    by_cases hversion : latest.version = e.snapshot.version
    · use e
      rw [if_pos hversion]
      exact ⟨rfl, .inl ⟨hsame.1, hsame.2, rfl, .inr ⟨hversion, rfl⟩⟩⟩
    · use { e with snapshot := latest }
      rw [if_neg hversion]
      exact ⟨rfl, .inl ⟨hsame.1, hsame.2, rfl, .inl rfl⟩⟩
  · cases hdiffers : m.differs latest.share e.limiter.rate with
    | true =>
        use { e with limiter := e.limiter.setRate latest.share now, snapshot := latest }
        exact ⟨rfl, .inr (.inl ⟨rfl, rfl, rfl⟩)⟩
    | false =>
        use { e with snapshot := latest }
        exact ⟨rfl, .inr (.inr ⟨rfl, rfl, rfl⟩)⟩

/-- It has its latest inputs then, or those it had if neither the nodes nor the version are new. -/
theorem snapshot_adopt {now : Nat} {table : String} {e e' : Entity} {latest : Snapshot}
    (h : (m.adopt now table e latest).value.entity? = some e') :
  e'.snapshot = latest ∨
    latest.nodes = e.snapshot.nodes ∧ latest.version = e.snapshot.version ∧
      e'.snapshot = e.snapshot
  := by
  obtain ⟨e'', he'', hcases⟩ := m.entity?_adopt now table e latest
  obtain rfl := Option.some.inj (he''.symm.trans h)
  rcases hcases with ⟨hnodes, _, _, hsnapshot | ⟨hversion, hsnapshot⟩⟩ | ⟨_, hsnapshot, _⟩ |
    ⟨_, hsnapshot, _⟩
  · left
    apply hsnapshot
  · right
    use hnodes, hversion
  · left
    apply hsnapshot
  · left
    apply hsnapshot

theorem value_reconsider_of_latest? {lookups : Lookups} {view : View} {table : String} {e : Entity}
    {latest : Snapshot} (h : (m.latest? lookups view table e.snapshot).value = some latest)
    (now : Nat) :
  (m.reconsider lookups view now table e).value = (m.adopt now table e latest).value
  := by
  rw [reconsider, Traced.value_bind, h]

theorem entity?_reconsider (lookups : Lookups) (view : View) (now : Nat) (table : String)
    (e : Entity) :
  (m.reconsider lookups view now table e).value.entity? =
    (m.latest? lookups view table e.snapshot).value.bind fun latest =>
      (m.adopt now table e latest).value.entity?
  := by
  rw [reconsider, Traced.value_bind]
  cases (m.latest? lookups view table e.snapshot).value <;> rfl

/-- A table that is tracked on has the nodes of the view. -/
theorem nodes_reconsider {lookups : Lookups} {view : View} {now : Nat} {table : String}
    {e e' : Entity} (h : (m.reconsider lookups view now table e).value.entity? = some e') :
  e'.snapshot.nodes = view.onlineCount table m.localNode
  := by
  rw [entity?_reconsider] at h
  obtain ⟨latest, hlatest, h⟩ := Option.bind_eq_some_iff.mp h
  obtain ⟨version, overall, _, _, rfl⟩ := m.exists_of_latest? hlatest
  rw [← Snapshot.nodes_ofInputs view table m.localNode overall version]
  rcases m.snapshot_adopt h with hsnapshot | ⟨hnodes, _, hsnapshot⟩
  · rw [hsnapshot]
  · rw [hsnapshot, hnodes]

end Manager

end QuotaShare
