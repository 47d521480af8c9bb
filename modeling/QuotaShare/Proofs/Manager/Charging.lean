import Mathlib.Data.List.Nodup
import Mathlib.Tactic.Use
import QuotaShare.Proofs.Manager.Run

/-!
# Charging

A query is charged once to each variant of the table that it names, the offline one first, and what
one variant decides makes no difference to the other.  So a query against an unqualified name is the
same as a query against each of the two qualified names in turn.
-/

namespace QuotaShare

/-- The gauge that a query sets for a tracked table: the hits of the window, with the one of this
query, in percent of the rate. -/
def Entity.gauge (e : Entity) (now : Nat) (table : String) : Gauge where
  table
  percent := utilization ((e.hits.hit now).count now) e.limiter.rate

/-- What a query and a later one lead to together: the manager after the later one, whether both are
admitted, and the gauges of both. -/
def Admission.andThen (a b : Admission) : Admission where
  manager := b.manager
  admitted := a.admitted && b.admitted
  gauges := a.gauges ++ b.gauges

theorem Admission.andThen_assoc (a b c : Admission) :
  (a.andThen b).andThen c = a.andThen (b.andThen c)
  := by
  rw [andThen, andThen, andThen, andThen, Bool.and_assoc, List.append_assoc]

namespace Manager

/-- The gauge that a query sets for a table, if the table is tracked and there is a sink. -/
def gauge? (m : Manager) (now : Nat) (table : String) : Option Gauge :=
  if m.sink.isSome then (m.entity? table).map fun e => e.gauge now table else none

/-- Whether an admission is that of one query, charged once to each of the given tables. -/
structure Charged (m : Manager) (now : Nat) (tables : List String) (a : Admission) : Prop where
  /-- Each of the tables that is tracked has one hit more, and its limiter was asked once. -/
  charged : ∀ table ∈ tables, a.manager.entity? table =
    (m.entity? table).map fun e =>
      { e with limiter := (e.limiter.acquire now).2, hits := e.hits.hit now }
  /-- Every other table is as it was. -/
  other : ∀ table, table ∉ tables → a.manager.entity? table = m.entity? table
  /-- Nothing but the registry is new. -/
  rest : a.manager = { m with registry := a.manager.registry }
  /-- The query is admitted if the limiters of all of the tables that are tracked admit it. -/
  admitted : a.admitted = true ↔
    ∀ table ∈ tables, ∀ e, m.entity? table = some e → (e.limiter.acquire now).1 = true
  /-- The gauges are set in the order of the tables. -/
  gauges : a.gauges = tables.filterMap (m.gauge? now)

/-! ### One table -/

theorem entity?_acquireTable_of_ne (m : Manager) (now : Nat) {table other : String}
    (h : table ≠ other) :
  (m.acquireTable now table).value.manager.entity? other = m.entity? other
  := by
  rw [entity?_acquireTable, if_neg h]
  apply Option.map_id'

theorem sink_acquireTable (m : Manager) (now : Nat) (table : String) :
  (m.acquireTable now table).value.manager.sink = m.sink
  := by
  rw [manager_acquireTable]
  cases m.entity? table <;> rfl

theorem gauge?_acquireTable_of_ne (m : Manager) (now : Nat) {table other : String}
    (h : table ≠ other) :
  (m.acquireTable now table).value.manager.gauge? now other = m.gauge? now other
  := by
  rw [gauge?, gauge?, sink_acquireTable, entity?_acquireTable_of_ne m now h]

theorem gauges_acquireTable (m : Manager) (now : Nat) (table : String) :
  (m.acquireTable now table).value.gauges = (m.gauge? now table).toList
  := by
  rw [acquireTable, gauge?]
  cases m.entity? table with
  | none => cases m.sink <;> rfl
  | some e =>
      cases m.sink <;> dsimp only <;> split <;> rfl

/-! ### Tables one after the other -/

theorem acquireAll_eq_foldlM (m : Manager) (now : Nat) (tables : List String) :
  m.acquireAll now tables =
    tables.foldlM (fun a table => a.andThen <$> a.manager.acquireTable now table) ⟨m, true, []⟩
  := rfl

/-- Queries that are charged after others go on from what these left. -/
theorem foldlM_andThen (now : Nat) (tables : List String) (a : Admission) :
  tables.foldlM (fun a table => a.andThen <$> a.manager.acquireTable now table) a =
    a.andThen <$> a.manager.acquireAll now tables
  := by
  rw [acquireAll_eq_foldlM]
  induction tables generalizing a with
  | nil =>
      rw [List.foldlM_nil, List.foldlM_nil, map_pure, Admission.andThen, Bool.and_true,
        List.append_nil]
  | cons table tables ih =>
      rw [List.foldlM_cons, List.foldlM_cons, bind_map_left, bind_map_left, map_bind]
      apply bind_congr
      intro b
      rw [ih (a.andThen b), ih (Admission.andThen ⟨a.manager, true, []⟩ b), Functor.map_map]
      apply map_congr
      intro c
      apply Admission.andThen_assoc

theorem acquireAll_append (m : Manager) (now : Nat) (first second : List String) :
  m.acquireAll now (first ++ second) =
    m.acquireAll now first >>= fun a => a.andThen <$> a.manager.acquireAll now second
  := by
  rw [acquireAll_eq_foldlM, List.foldlM_append]
  apply bind_congr
  apply foldlM_andThen

theorem acquireAll_singleton (m : Manager) (now : Nat) (table : String) :
  m.acquireAll now [table] = m.acquireTable now table
  := by
  rw [acquireAll_eq_foldlM, List.foldlM_cons]
  simp only [List.foldlM_nil, bind_pure]
  apply id_map

theorem acquireAll_cons (m : Manager) (now : Nat) (table : String) (tables : List String) :
  m.acquireAll now (table :: tables) =
    m.acquireTable now table >>= fun a => a.andThen <$> a.manager.acquireAll now tables
  := by
  rw [← List.singleton_append, acquireAll_append, acquireAll_singleton]

/-- Different tables are charged once each, whatever the others decide. -/
theorem admitted_acquireAll (m : Manager) (now : Nat) {tables : List String} (h : tables.Nodup) :
  (m.acquireAll now tables).value.admitted = true ↔
    ∀ table ∈ tables, ∀ e, m.entity? table = some e → (e.limiter.acquire now).1 = true
  := by
  induction tables generalizing m with
  | nil =>
      constructor
      · intro _ table hmem
        cases hmem
      · intro _
        rfl
  | cons table tables ih =>
      obtain ⟨hnot, hnodup⟩ := List.nodup_cons.mp h
      have hother : ∀ other ∈ tables, (m.acquireTable now table).value.manager.entity? other =
          m.entity? other := by
        intro other hmem
        apply entity?_acquireTable_of_ne
        rintro rfl
        apply hnot hmem
      have hfirst : (m.acquireTable now table).value.admitted = true ↔
          ∀ e, m.entity? table = some e → (e.limiter.acquire now).1 = true := by
        rw [admitted_acquireTable]
        cases m.entity? table with
        | none => simp only [reduceCtorEq, false_imp_iff, implies_true]
        | some e => simp only [Option.some.injEq, forall_eq']; rfl
      rw [acquireAll_cons, Traced.value_bind, Traced.value_map, Admission.andThen,
        Bool.and_eq_true, hfirst, ih _ hnodup, List.forall_mem_cons]
      apply and_congr_right
      intro _
      apply forall₂_congr
      intro other hmem
      rw [hother other hmem]

theorem gauges_acquireAll (m : Manager) (now : Nat) {tables : List String} (h : tables.Nodup) :
  (m.acquireAll now tables).value.gauges = tables.filterMap (m.gauge? now)
  := by
  induction tables generalizing m with
  | nil => rfl
  | cons table tables ih =>
      obtain ⟨hnot, hnodup⟩ := List.nodup_cons.mp h
      have hother : tables.filterMap ((m.acquireTable now table).value.manager.gauge? now) =
          tables.filterMap (m.gauge? now) := by
        apply List.filterMap_congr
        intro other hmem
        apply gauge?_acquireTable_of_ne
        rintro rfl
        apply hnot hmem
      rw [acquireAll_cons, Traced.value_bind, Traced.value_map, Admission.andThen]
      simp only [gauges_acquireTable, ih _ hnodup, hother]
      rw [List.filterMap_cons]
      cases m.gauge? now table <;> rfl

theorem charged_acquireAll (m : Manager) (now : Nat) {tables : List String} (h : tables.Nodup) :
  m.Charged now tables (m.acquireAll now tables).value
  := by
  constructor
  · intro table hmem
    rw [entity?_acquireAll, List.count_eq_one_of_mem h hmem]
    rfl
  · intro table hnot
    rw [entity?_acquireAll, List.count_eq_zero.mpr hnot]
    apply Option.map_id'
  · obtain ⟨registry, hmanager⟩ := m.exists_registry_acquireAll now tables
    rw [hmanager]
  · apply m.admitted_acquireAll now h
  · apply m.gauges_acquireAll now h

/-! ### Names -/

/-- A query against a qualified name is charged to its table alone. -/
theorem acquire_append_suffix (m : Manager) (now : Nat) (variant : Variant) (name : String) :
  m.acquire now (name ++ variant.suffix) = m.acquireTable now (name ++ variant.suffix)
  := by
  have hname := variant.ofName?_append name
  rw [acquire, Target.names_resolve (Option.isSome_of_eq_some hname), acquireAll_singleton]

/-- A query against an unqualified name is charged as one against the offline variant, and then one
against the realtime variant. -/
theorem acquire_of_unqualified (m : Manager) (now : Nat) {name : String}
    (h : Variant.ofName? name = none) :
  m.acquire now name =
    m.acquire now (name ++ "_OFFLINE") >>= fun a =>
      a.andThen <$> a.manager.acquire now (name ++ "_REALTIME")
  := by
  have hoffline : m.acquire now (name ++ "_OFFLINE") = m.acquireTable now (name ++ "_OFFLINE") :=
    m.acquire_append_suffix now .offline name
  rw [acquire, Target.names_resolve_of_unqualified h, acquireAll_cons, hoffline]
  apply bind_congr
  intro a
  have hrealtime : a.manager.acquire now (name ++ "_REALTIME") =
      a.manager.acquireTable now (name ++ "_REALTIME") :=
    a.manager.acquire_append_suffix now .realtime name
  rw [hrealtime, acquireAll_singleton]

end Manager

/-- A query is charged once to each of the tables that its name stands for, as far as they are
tracked, with one gauge for each of them if there is a sink; it is admitted if each of them admits
it, and changes neither a snapshot nor a rate.  A query against an unqualified name has the effects
of one against its offline and one against its realtime variant, and is admitted if both are. -/
theorem charged_once_each (m : Manager) (now : Nat) (name : String) :
  m.Charged now (Target.resolve name).names (m.acquire now name).value ∧
  (∀ table, (m.acquire now name).value.manager.snapshot? table = m.snapshot? table ∧
    (m.acquire now name).value.manager.rate? table = m.rate? table) ∧
  (Variant.ofName? name = none →
    (Target.resolve name).names = [name ++ "_OFFLINE", name ++ "_REALTIME"] ∧
    m.acquire now name = (do
      let a ← m.acquire now (name ++ "_OFFLINE")
      let b ← a.manager.acquire now (name ++ "_REALTIME")
      pure (a.andThen b)))
  := by
  refine ⟨m.charged_acquireAll now (Target.nodup_names_resolve name), ?_, ?_⟩
  · intro table
    rw [Manager.snapshot?, Manager.rate?, Manager.entity?_acquire, Option.map_map, Option.map_map]
    constructor
    · rw [Manager.snapshot?]
      congr 1
      funext e
      apply e.snapshot_charge
    · rw [Manager.rate?]
      congr 1
      funext e
      apply e.rate_charge
  · intro h
    use Target.names_resolve_of_unqualified h
    rw [m.acquire_of_unqualified now h]
    simp only [bind_pure_comp]

/-- A query against both variants of a table, of which only the realtime one admits it: both have the
hit, and both gauges are set. -/
theorem charged_once_each_of_refusal :
  let node := Manager.start "n1" (some .tables) QuotaSettings.default
  let quota (rate : String) : Option Quota := some ⟨some rate⟩
  let lookups := (Store.ofConfigs [⟨"t_OFFLINE", quota "1"⟩, ⟨"t_REALTIME", quota "100"⟩]).lookups
  let states : NodeStates := .ofPairs [("n1", .online)]
  let view : View := ⟨1, .ofPairs [("t_OFFLINE", states), ("t_REALTIME", states)]⟩
  let m := node.run [(lookups, .init 0 ⟨"t_OFFLINE", quota "1"⟩ (some view)),
    (lookups, .init 0 ⟨"t_REALTIME", quota "100"⟩ (some view)),
    (lookups, .acquire 0 "t_OFFLINE")]
  Variant.ofName? "t" = none ∧
    (m.acquire 5 "t").value.admitted = false ∧
    (m.acquire 5 "t").value.gauges = [⟨"t_OFFLINE", 200⟩, ⟨"t_REALTIME", 1⟩] ∧
    m.acquire 5 "t" = (do
      let a ← m.acquire 5 "t_OFFLINE"
      let b ← a.manager.acquire 5 "t_REALTIME"
      pure (a.andThen b))
  := by
  intro node quota lookups states view m
  have hname : Variant.ofName? "t" = none := by decide +kernel
  have hadmitted : (m.acquire 5 "t").value.admitted = false := by decide +kernel
  have hgauges : (m.acquire 5 "t").value.gauges = [⟨"t_OFFLINE", 200⟩, ⟨"t_REALTIME", 1⟩] := by
    decide +kernel
  exact ⟨hname, hadmitted, hgauges, ((charged_once_each m 5 "t").2.2 hname).2⟩

end QuotaShare
