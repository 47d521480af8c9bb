import QuotaShare.Manager.Admission
import QuotaShare.Proofs.Manager.Verdict

/-!
# What operations do to the tracked tables

Each operation of a manager is told by what is kept for a table before and after it.  Registration
and removal concern one table, a query charges the tables that it names, and a pass carries out its
verdict on each table, whatever the order in which the tables are looked at.
-/

namespace QuotaShare

namespace Manager

variable (m : Manager)

/-! ### Registration and removal -/

theorem entity?_start (localNode : String) (sink : Option Sink) (settings : QuotaSettings)
    (table : String) :
  (start localNode sink settings).entity? table = none
  := Registry.get?_empty table

theorem entity?_drop (table other : String) :
  (m.drop table).value.entity? other = if table = other then none else m.entity? other
  := Registry.get?_remove m.registry table other

theorem entity?_clear (table : String) :
  m.clear.entity? table = none
  := Registry.get?_empty table

/-- A table can be tracked when its quota is a rate, a view is at hand, and its version is found. -/
theorem value_register? (lookups : Lookups) (config : TableConfig) (view : Option View) :
  (m.register? lookups config view).value =
    (config.quota.bind Quota.rate?).bind fun overall => view.bind fun view =>
      (lookups.version config.table).toOption.join.map
        (Snapshot.ofInputs (view.onlineCount config.table m.localNode) overall)
  := by
  obtain ⟨table, quota⟩ := config
  have hversion := value_storedVersion lookups table
  unfold register?
  cases quota with
  | none => rfl
  | some quota =>
      cases hraw : quota.raw? with
      | none =>
          have hfilter : (some quota).filter (fun q => q.raw?.isSome) = none := by simp [hraw]
          have hrate : quota.rate? = none := by
            rw [Quota.rate?, hraw]
            rfl
          simp only [hfilter, Option.bind_some, hrate]
          rfl
      | some raw =>
          have hfilter : (some quota).filter (fun q => q.raw?.isSome) = some quota := by simp [hraw]
          simp only [hfilter, Option.bind_some]
          cases view with
          | none => cases quota.rate? <;> rfl
          | some view =>
              simp only [Traced.value_bind]
              cases quota.rate? with
              | none => rfl
              | some overall =>
                  simp only [Traced.value_bind, hversion, Option.bind_some]
                  cases (lookups.version table).toOption.join <;> rfl

theorem value_register?_eq_some_iff {lookups : Lookups} {config : TableConfig} {view : Option View}
    {s : Snapshot} :
  (m.register? lookups config view).value = some s ↔
    ∃ against, view = some against ∧ s.nodes = against.onlineCount config.table m.localNode ∧
      config.rate? = some s.overall ∧ lookups.version config.table = .ok (some s.version)
  := by
  rw [value_register?]
  constructor
  · intro h
    obtain ⟨overall, hrate, h⟩ := Option.bind_eq_some_iff.mp h
    obtain ⟨against, hview, h⟩ := Option.bind_eq_some_iff.mp h
    obtain ⟨version, hversion, rfl⟩ := Option.map_eq_some_iff.mp h
    use against, hview, Snapshot.nodes_ofInputs .., hrate
    apply join_toOption_eq_some_iff.mp hversion
  · rintro ⟨against, rfl, hnodes, hrate, hversion⟩
    apply Option.bind_eq_some_iff.mpr
    use s.overall, hrate
    apply Option.map_eq_some_iff.mpr
    use s.version, join_toOption_eq_some_iff.mpr hversion
    apply Snapshot.ext
    · rw [hnodes]
      apply Snapshot.nodes_ofInputs
    · rfl
    · rfl

/-- A table that cannot be registered makes no difference. -/
theorem value_init (lookups : Lookups) (now : Nat) (config : TableConfig) (view : Option View) :
  (m.init lookups now config view).value =
    match (m.register? lookups config view).value with
    | none => (m, false)
    | some s =>
      ({ m with
          registry := (m.registry.put config.table
            (Entity.start s m.settings.window m.settings.burst now)).1 }, true)
  := by
  rw [init]
  simp only [Traced.value_bind]
  cases (m.register? lookups config view).value <;> rfl

/-- Registration starts a table anew if it can be tracked, and leaves everything else as it was. -/
theorem entity?_init (lookups : Lookups) (now : Nat) (config : TableConfig) (view : Option View)
    (other : String) :
  (m.init lookups now config view).value.1.entity? other =
    if config.table = other then
      ((m.register? lookups config view).value.map fun s =>
        Entity.start s m.settings.window m.settings.burst now).or (m.entity? other)
    else m.entity? other
  := by
  rw [value_init]
  cases (m.register? lookups config view).value with
  | none => simp
  | some s =>
      apply (Registry.get?_put m.registry config.table other _).trans
      rfl

end Manager

/-! ### Queries -/

/-- An entity after a number of queries at the same instant. -/
def Entity.charge (e : Entity) (now : Nat) : Nat → Entity
  | 0 => e
  | k + 1 => (e.acquire now).2.charge now k

theorem Entity.charge_add (e : Entity) (now i k : Nat) :
  e.charge now (i + k) = (e.charge now i).charge now k
  := by
  induction i generalizing e with
  | zero => rw [Nat.zero_add, charge]
  | succ i ih => rw [Nat.succ_add, charge, ih, charge]

/-- Queries do not change the inputs from which the rate was derived. -/
theorem Entity.snapshot_charge (e : Entity) (now k : Nat) :
  (e.charge now k).snapshot = e.snapshot
  := by
  induction k generalizing e with
  | zero => rfl
  | succ k ih =>
      rw [charge]
      apply ih (e.acquire now).2

/-- Queries do not change the rate. -/
theorem Entity.rate_charge (e : Entity) (now k : Nat) :
  (e.charge now k).limiter.rate = e.limiter.rate
  := by
  induction k generalizing e with
  | zero => rfl
  | succ k ih =>
      rw [charge]
      apply ih (e.acquire now).2

namespace Manager

variable (m : Manager)

/-- A query keeps the charged entity of a tracked table, and changes nothing else. -/
theorem manager_acquireTable (now : Nat) (table : String) :
  (m.acquireTable now table).value.manager =
    match m.entity? table with
    | none => m
    | some e => { m with registry := (m.registry.put table (e.acquire now).2).1 }
  := by
  rw [acquireTable]
  cases m.entity? table with
  | none => rfl
  | some e =>
      simp only
      split <;> rfl

/-- A table that is not tracked admits every query. -/
theorem admitted_acquireTable (now : Nat) (table : String) :
  (m.acquireTable now table).value.admitted =
    match m.entity? table with
    | none => true
    | some e => (e.acquire now).1
  := by
  rw [acquireTable]
  cases m.entity? table with
  | none => rfl
  | some e =>
      simp only
      split <;> rfl

theorem entity?_acquireTable (now : Nat) (table other : String) :
  (m.acquireTable now table).value.manager.entity? other =
    (m.entity? other).map fun e => e.charge now (if table = other then 1 else 0)
  := by
  rw [manager_acquireTable]
  cases he : m.entity? table with
  | none =>
      by_cases hother : table = other
      · rw [← hother, he]
        rfl
      · simp only [if_neg hother, Entity.charge, Option.map_id']
  | some e =>
      apply (Registry.get?_put m.registry table other _).trans
      by_cases hother : table = other
      · rw [if_pos hother, if_pos hother, ← hother, he]
        rfl
      · simp only [if_neg hother, Entity.charge, Option.map_id']
        rfl

theorem manager_acquireAll (now : Nat) (tables : List String) :
  (m.acquireAll now tables).value.manager =
    tables.foldl (fun m table => (m.acquireTable now table).value.manager) m
  := by
  rw [acquireAll, Traced.value_foldlM]
  symm
  change tables.foldl _ (Admission.manager ⟨m, true, []⟩) = _
  apply List.foldl_hom Admission.manager
  intro a table
  rfl

/-- Queries change nothing of a manager but its registry. -/
theorem exists_registry_acquireAll (now : Nat) (tables : List String) :
  ∃ registry, (m.acquireAll now tables).value.manager = { m with registry }
  := by
  rw [manager_acquireAll]
  induction tables generalizing m with
  | nil => exact ⟨m.registry, rfl⟩
  | cons table tables ih =>
      obtain ⟨registry, h⟩ := ih (m.acquireTable now table).value.manager
      use registry
      rw [List.foldl_cons, h, manager_acquireTable]
      cases m.entity? table <;> rfl

/-- Queries charge each table as often as it is named. -/
theorem entity?_acquireAll (now : Nat) (tables : List String) (other : String) :
  (m.acquireAll now tables).value.manager.entity? other =
    (m.entity? other).map fun e => e.charge now (tables.count other)
  := by
  rw [manager_acquireAll]
  induction tables generalizing m with
  | nil => simp only [List.foldl_nil, List.count_nil, Entity.charge, Option.map_id']
  | cons table tables ih =>
      rw [List.foldl_cons, ih, entity?_acquireTable, Option.map_map]
      congr 1
      funext e
      rw [Function.comp_apply, ← Entity.charge_add, List.count_cons, Nat.add_comm]
      simp only [beq_iff_eq]

/-- A query charges the tables that its name stands for. -/
theorem entity?_acquire (now : Nat) (name other : String) :
  (m.acquire now name).value.manager.entity? other =
    (m.entity? other).map fun e => e.charge now ((Target.resolve name).names.count other)
  := m.entity?_acquireAll now _ other

/-- A query against a qualified name is admitted if its table admits it. -/
theorem admitted_acquire {table : String} (h : (Variant.ofName? table).isSome = true) (now : Nat) :
  (m.acquire now table).value.admitted =
    match m.entity? table with
    | none => true
    | some e => (e.acquire now).1
  := by
  rw [acquire, Target.names_resolve h, ← admitted_acquireTable]
  apply Bool.true_and

end Manager

/-! ### Passes -/

namespace Manager

namespace Progress

/-- What is registered after a verdict on a table.  A table of which nothing is kept is still
registered if it was not registered as it was listed. -/
theorem get?_apply (p : Progress) (table other : String) (listed : Entity) (v : Verdict) :
  (p.apply table listed v).registry.get? other =
    if table = other then v.entity?.or ((p.registry.get? table).filter fun e => e ≠ listed)
    else p.registry.get? other
  := by
  cases v with
  | keep e => apply Registry.get?_put
  | rebuild e => apply Registry.get?_put
  | evict => apply Registry.get?_removeIfSame

/-- A verdict on a table makes no difference to any other one. -/
theorem get?_apply_of_ne (p : Progress) {table other : String} (h : table ≠ other)
    (listed : Entity) (v : Verdict) :
  (p.apply table listed v).registry.get? other = p.registry.get? other
  := by
  rw [get?_apply, if_neg h]

theorem get?_apply_self {p : Progress} {table : String} {listed : Entity}
    (h : p.registry.get? table = some listed) (v : Verdict) :
  (p.apply table listed v).registry.get? table = v.entity?
  := by
  rw [get?_apply, if_pos rfl, h, Option.filter_some_neg, Option.or_none]
  simp

theorem rebuilt_apply (p : Progress) (table : String) (listed : Entity) (v : Verdict) :
  (p.apply table listed v).rebuilt = p.rebuilt + if v.isRebuild then 1 else 0
  := by
  cases v <;> rfl

/-- An eviction is counted if the registry removes the table. -/
theorem evicted_apply (p : Progress) (table : String) (listed : Entity) (v : Verdict) :
  (p.apply table listed v).evicted =
    p.evicted + if v.isEvict && (p.registry.removeIfSame table listed).2 then 1 else 0
  := by
  cases v with
  | keep e => rfl
  | rebuild e => rfl
  | evict =>
      change (if (p.registry.removeIfSame table listed).2 then _ else _) = _
      rw [Verdict.isEvict, Bool.true_and]
      split <;> rfl

/-- Carries out the verdicts on the given tables, one after the other. -/
def applyAll (p : Progress) (verdict : String → Entity → Verdict)
    (entries : List (String × Entity)) : Progress :=
  entries.foldl (fun p (table, e) => p.apply table e (verdict table e)) p

theorem applyAll_cons (p : Progress) (verdict : String → Entity → Verdict) (table : String)
    (e : Entity) (entries : List (String × Entity)) :
  p.applyAll verdict ((table, e) :: entries) =
    (p.apply table e (verdict table e)).applyAll verdict entries
  := rfl

/-- Whether no table is listed twice, and each of them is still registered as it is listed. -/
structure Finds (p : Progress) (entries : List (String × Entity)) : Prop where
  listed : ∀ table e, (table, e) ∈ entries → p.registry.get? table = some e
  distinct : entries.Pairwise fun a b => a.1 ≠ b.1

namespace Finds

variable {p : Progress} {table : String} {e : Entity} {entries before after : List (String × Entity)}

/-- Before the first verdict each table is registered as it is listed, in whatever order. -/
theorem of_perm {registry : Registry Entity} (h : entries.Perm registry.toList)
    (rebuilt evicted : Nat) :
  Finds ⟨registry, rebuilt, evicted⟩ entries
  := by
  constructor
  · intro table e hmem
    apply Registry.mem_toList.mp (h.mem_iff.mp hmem)
  · apply (h.pairwise_iff fun h => h.symm).mpr registry.pairwise_toList

/-- If the next table is to be removed, it is removed. -/
theorem removeIfSame (h : p.Finds ((table, e) :: after)) :
  (p.registry.removeIfSame table e).2 = true
  := by
  rw [Registry.removeIfSame_snd]
  apply decide_eq_true (h.listed table e List.mem_cons_self)

/-- A verdict on the next table leaves the later ones registered as they are listed. -/
theorem apply (h : p.Finds ((table, e) :: after)) (v : Verdict) :
  (p.apply table e v).Finds after
  := by
  obtain ⟨hne, hdistinct⟩ := List.pairwise_cons.mp h.distinct
  constructor
  · intro other e' hmem
    rw [get?_apply_of_ne p (hne _ hmem)]
    apply h.listed other e' (List.mem_cons_of_mem _ hmem)
  · apply hdistinct

theorem applyAll (h : p.Finds (before ++ after)) (verdict : String → Entity → Verdict) :
  (p.applyAll verdict before).Finds after
  := by
  induction before generalizing p with
  | nil => apply h
  | cons entry before ih =>
      obtain ⟨table, e⟩ := entry
      rw [applyAll_cons]
      apply ih (h.apply (verdict table e))

end Finds

/-- Verdicts on other tables make no difference to a table. -/
theorem get?_applyAll_of_notMem (p : Progress) (verdict : String → Entity → Verdict)
    {entries : List (String × Entity)} {table : String} (h : ∀ e, (table, e) ∉ entries) :
  (p.applyAll verdict entries).registry.get? table = p.registry.get? table
  := by
  induction entries generalizing p with
  | nil => rfl
  | cons entry entries ih =>
      obtain ⟨other, listed⟩ := entry
      rw [applyAll_cons, ih _ fun e he => h e (List.mem_cons_of_mem _ he)]
      apply get?_apply_of_ne p
      rintro rfl
      apply h listed List.mem_cons_self

/-- A table that is found is registered in the end with what its verdict keeps. -/
theorem Finds.get?_applyAll {p : Progress} {entries : List (String × Entity)} {table : String}
    {e : Entity} (h : p.Finds entries) (verdict : String → Entity → Verdict)
    (hlisted : (table, e) ∈ entries) :
  (p.applyAll verdict entries).registry.get? table = (verdict table e).entity?
  := by
  induction entries generalizing p with
  | nil => cases hlisted
  | cons entry entries ih =>
      obtain ⟨other, listed⟩ := entry
      rw [applyAll_cons]
      obtain heq | hlater := List.mem_cons.mp hlisted
      · cases heq
        have hnot (e' : Entity) : (table, e') ∉ entries :=
          fun he' => (List.pairwise_cons.mp h.distinct).1 _ he' rfl
        rw [get?_applyAll_of_notMem _ verdict hnot]
        apply get?_apply_self (h.listed table e List.mem_cons_self)
      · apply ih (h.apply (verdict other listed)) hlater

end Progress

variable (m : Manager)

/-- The manager after a pass over a view. -/
def passed (lookups : Lookups) (view : View) (now : Nat) : Manager :=
  { m with
    registry := (m.sweep lookups view now m.registry.toList).value.registry
    lastVersion := some view.version }

theorem value_sweep (lookups : Lookups) (view : View) (now : Nat)
    (entries : List (String × Entity)) :
  (m.sweep lookups view now entries).value =
    Progress.applyAll ⟨m.registry, 0, 0⟩
      (fun table e => (m.reconsider lookups view now table e).value) entries
  := by
  rw [sweep, Traced.value_foldlM]
  rfl

/-- A pass carries out its verdict on each tracked table, and tracks no other one. -/
theorem entity?_passed (lookups : Lookups) (view : View) (now : Nat) (table : String) :
  (m.passed lookups view now).entity? table =
    (m.entity? table).bind fun e => (m.reconsider lookups view now table e).value.entity?
  := by
  rw [entity?, passed, value_sweep]
  cases he : m.entity? table with
  | none =>
      rw [Progress.get?_applyAll_of_notMem]
      · apply he
      · intro e hlisted
        cases he.symm.trans (Registry.mem_toList.mp hlisted)
  | some e =>
      apply (Progress.Finds.of_perm (List.Perm.refl _) 0 0).get?_applyAll
      apply Registry.mem_toList.mpr he

/-- A pass is made against a view whose version is not that of the last pass. -/
theorem value_process (lookups : Lookups) (now : Nat) (view : Option View) :
  (m.process lookups now view).value =
    match view with
    | none => (m, .noView)
    | some view =>
      if m.lastVersion = some view.version then (m, .unchanged view.version)
      else
        let p := (m.sweep lookups view now m.registry.toList).value
        (m.passed lookups view now,
          .processed ⟨view.version, p.rebuilt, p.evicted, p.registry.size⟩)
  := by
  cases view with
  | none => rfl
  | some view =>
      rw [process]
      simp only [Traced.value_bind]
      split <;> rfl

end Manager

end QuotaShare
