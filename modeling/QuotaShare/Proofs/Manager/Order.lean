import Mathlib.Data.List.Perm.Basic
import Mathlib.Tactic.Use
import QuotaShare.Proofs.Manager.Run

/-!
# The order of a pass

The order in which a pass looks at the tracked tables makes no difference to what becomes of them and
to what is counted.  Verdicts on different tables commute, since each of them changes what is
registered for its own table alone and adds to a count; and no table is looked at twice.
-/

namespace QuotaShare

namespace Manager

/-! ### Two tables -/

theorem Progress.ext_get? {p q : Progress}
    (hregistry : ∀ table, p.registry.get? table = q.registry.get? table)
    (hrebuilt : p.rebuilt = q.rebuilt) (hevicted : p.evicted = q.evicted) :
  p = q
  := by
  obtain ⟨registry, rebuilt, evicted⟩ := p
  obtain ⟨registry', rebuilt', evicted'⟩ := q
  obtain rfl : registry = registry' := Registry.ext_get? hregistry
  obtain rfl : rebuilt = rebuilt' := hrebuilt
  obtain rfl : evicted = evicted' := hevicted
  rfl

/-- Verdicts on different tables can be carried out in either order. -/
theorem Progress.apply_comm {table other : String} (h : table ≠ other) (p : Progress)
    (e e' : Entity) (v w : Verdict) :
  (p.apply table e v).apply other e' w = (p.apply other e' w).apply table e v
  := by
  have hother := get?_apply_of_ne p h e v
  have htable := get?_apply_of_ne p h.symm e' w
  apply Progress.ext_get?
  · intro third
    by_cases hthird : other = third
    · subst hthird
      rw [get?_apply, if_pos rfl, hother, get?_apply_of_ne _ h, get?_apply, if_pos rfl]
    · rw [get?_apply_of_ne _ hthird, get?_apply, get?_apply, htable, get?_apply_of_ne p hthird]
  · rw [rebuilt_apply, rebuilt_apply, rebuilt_apply, rebuilt_apply]
    apply Nat.add_right_comm
  · rw [evicted_apply, evicted_apply, evicted_apply, evicted_apply, Registry.removeIfSame_snd,
      Registry.removeIfSame_snd, Registry.removeIfSame_snd, Registry.removeIfSame_snd, hother, htable]
    apply Nat.add_right_comm

/-! ### All tables -/

variable {m : Manager} {lookups : Lookups} {view : View} {now : Nat}

/-- The tracked tables can be looked at in any order. -/
theorem value_sweep_of_perm {entries : List (String × Entity)}
    (h : entries.Perm m.registry.toList) :
  (m.sweep lookups view now entries).value =
    (m.sweep lookups view now m.registry.toList).value
  := by
  rw [value_sweep, value_sweep]
  apply h.foldl_eq'
  rintro ⟨table, e⟩ hmem ⟨other, e'⟩ hmem' p
  by_cases htable : table = other
  · -- Nothing else is listed for a table than what is registered for it.
    subst htable
    have he := Registry.mem_toList.mp (h.mem_iff.mp hmem)
    have he' := Registry.mem_toList.mp (h.mem_iff.mp hmem')
    obtain rfl := Option.some.inj (he.symm.trans he')
    rfl
  · apply Progress.apply_comm htable p e e'

/-- The tables that a pass has not looked at yet are still registered as they are listed. -/
theorem finds_sweep {before after : List (String × Entity)}
    (h : (before ++ after).Perm m.registry.toList) :
  (m.sweep lookups view now before).value.Finds after
  := by
  rw [value_sweep]
  apply (Progress.Finds.of_perm h 0 0).applyAll

/-- A table is still registered as it is listed when it is looked at. -/
theorem get?_sweep_before {before after : List (String × Entity)} {table : String} {e : Entity}
    (h : (before ++ (table, e) :: after).Perm m.registry.toList) :
  (m.sweep lookups view now before).value.registry.get? table = some e
  := (finds_sweep h).listed table e List.mem_cons_self

/-- So the registry removes whatever a pass evicts. -/
theorem removeIfSame_sweep_before {before after : List (String × Entity)} {table : String}
    {e : Entity} (h : (before ++ (table, e) :: after).Perm m.registry.toList) :
  ((m.sweep lookups view now before).value.registry.removeIfSame table e).2 = true
  := (finds_sweep h).removeIfSame

/-- What a pass reports about a table does not depend on the tables before it. -/
theorem events_sweep (m : Manager) (lookups : Lookups) (view : View) (now : Nat)
    (entries : List (String × Entity)) :
  (m.sweep lookups view now entries).events =
    entries.flatMap fun (table, e) => (m.reconsider lookups view now table e).events
  := by
  apply Traced.events_foldlM
  rintro p ⟨table, e⟩
  rw [Traced.events_bind, Traced.events_pure, List.append_nil]

end Manager

/-- The order in which a pass looks at the tracked tables makes no difference.  If they are looked at
in any other order, each is still registered as it is listed when its turn comes, and the same is
registered and counted in the end; so this is the result of the pass, if it is made at all.  The same
events are reported, in another order. -/
theorem process_eq_of_perm (m : Manager) (lookups : Lookups) (now : Nat) (view : View)
    {entries : List (String × Entity)} (hentries : entries.Perm m.registry.toList)
    {p : Manager.Progress} (hp : (m.sweep lookups view now entries).value = p) :
  (∀ before table e after, entries = before ++ (table, e) :: after →
      (m.sweep lookups view now before).value.registry.get? table = some e) ∧
    (m.sweep lookups view now m.registry.toList).value = p ∧
    (m.lastVersion ≠ some view.version → (m.process lookups now (some view)).value =
      ({ m with registry := p.registry, lastVersion := some view.version },
        .processed ⟨view.version, p.rebuilt, p.evicted, p.registry.size⟩)) ∧
    (m.sweep lookups view now entries).events.Perm
      (m.sweep lookups view now m.registry.toList).events
  := by
  have hvalue : (m.sweep lookups view now m.registry.toList).value = p := by
    rw [← Manager.value_sweep_of_perm hentries, hp]
  refine ⟨?_, hvalue, ?_, ?_⟩
  · rintro before table e after rfl
    apply Manager.get?_sweep_before hentries
  · intro hversion
    rw [Manager.value_process]
    simp only [if_neg hversion, Manager.passed, hvalue]
  · rw [m.events_sweep, m.events_sweep]
    apply hentries.flatMap_right

/-- Three tables, of which one is rebuilt, one is evicted and one is kept, looked at from the last one
to the first one. -/
theorem process_eq_of_reverse :
  let quota : Option Quota := some ⟨some "60"⟩
  let states (n2 : NodeState) : NodeStates := .ofPairs [("n1", .online), ("n2", n2)]
  let first : View := ⟨1, .ofPairs [("a_OFFLINE", states .online), ("b_OFFLINE", states .online),
    ("c_OFFLINE", states .online)]⟩
  let view : View := ⟨2, .ofPairs [("a_OFFLINE", states .offline), ("c_OFFLINE", states .online)]⟩
  let lookups :=
    (Store.ofConfigs [⟨"a_OFFLINE", quota⟩, ⟨"b_OFFLINE", quota⟩, ⟨"c_OFFLINE", quota⟩]).lookups
  let m := (Manager.start "n1" none QuotaSettings.default).run
    [(lookups, .init 0 ⟨"a_OFFLINE", quota⟩ (some first)),
      (lookups, .init 0 ⟨"b_OFFLINE", quota⟩ (some first)),
      (lookups, .init 0 ⟨"c_OFFLINE", quota⟩ (some first))]
  let entries := m.registry.toList.reverse
  let p := (m.sweep lookups view 5 entries).value
  entries.map Prod.fst = ["c_OFFLINE", "b_OFFLINE", "a_OFFLINE"] ∧
    entries.Perm m.registry.toList ∧
    (m.process lookups 5 (some view)).value =
      ({ m with registry := p.registry, lastVersion := some 2 }, .processed ⟨2, 1, 1, 2⟩)
  := by
  intro quota states first view lookups m entries p
  have hnames : entries.map Prod.fst = ["c_OFFLINE", "b_OFFLINE", "a_OFFLINE"] := by
    decide +kernel
  have hversion : m.lastVersion ≠ some view.version := by decide +kernel
  have hcounts : p.rebuilt = 1 ∧ p.evicted = 1 ∧ p.registry.size = 2 := by decide +kernel
  have hentries : entries.Perm m.registry.toList := m.registry.toList.reverse_perm
  obtain ⟨_, _, hprocess, _⟩ := process_eq_of_perm m lookups 5 view hentries rfl
  obtain ⟨hrebuilt, hevicted, hsize⟩ := hcounts
  refine ⟨hnames, hentries, ?_⟩
  rw [hprocess hversion, hrebuilt, hevicted, hsize]

end QuotaShare
