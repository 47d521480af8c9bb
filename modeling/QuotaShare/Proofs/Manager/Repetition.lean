import QuotaShare.Proofs.Manager.Effect

/-!
# Passes over the same inputs

A pass leaves nothing to do for another one with the same answers and the same tables, whatever the
versions of the views are: each table that is tracked on has its latest inputs, also when its share
was not applied, and with its latest inputs a table is left alone.
-/

namespace QuotaShare

/-- What answers lead to, they lead to again. -/
theorem Lookups.Lead.again {lookups : Lookups} {table : String} {previous latest : Snapshot}
    (h : lookups.Lead table previous latest) :
  lookups.Lead table latest latest
  := by
  constructor
  · apply h.version
  · intro _
    rfl
  · intro hnew
    cases hnew rfl

namespace Manager

variable {m : Manager}

/-! ### One table -/

/-- An entity that has its latest inputs already is kept as it is. -/
theorem adopt_snapshot (m : Manager) (now : Nat) (table : String) {e : Entity}
    (he : Scalar.usable e.snapshot.overall = true) :
  (m.adopt now table e e.snapshot).value = .keep e
  := by
  have hsame : (e.snapshot.overall == e.snapshot.overall) = true :=
    (beq_iff_eq_of_usable he).mpr rfl
  rw [adopt, if_pos (And.intro rfl hsame), if_pos rfl]
  rfl

/-- What a pass left of a table is kept as it is in a pass over the same tables. -/
theorem reconsider_again {lookups : Lookups} {view again : View} {now : Nat} {table : String}
    {e e' : Entity} (he : Scalar.usable e.snapshot.overall = true)
    (h : (m.reconsider lookups view now table e).value.entity? = some e')
    (htables : again.tables = view.tables) {m' : Manager} (hnode : m'.localNode = m.localNode)
    (now' : Nat) :
  (m'.reconsider lookups again now' table e').value = .keep e'
  := by
  rw [entity?_reconsider] at h
  obtain ⟨latest, hlatest, h⟩ := Option.bind_eq_some_iff.mp h
  obtain ⟨hstates, hlead, hnodes⟩ := m.value_latest?_eq_some_iff.mp hlatest
  -- Whether its share was applied or not, the table has its latest inputs now.
  obtain rfl : e'.snapshot = latest := by
    rw [m.entity?_adopt_eq_renew now he hlead] at h
    rw [← Option.some.inj h]
    rfl
  have hlatest' : (m'.latest? lookups again table e'.snapshot).value = some e'.snapshot := by
    apply m'.value_latest?_eq_some_iff.mpr
    rw [View.onlineCount, View.states?, htables, hnode]
    use hstates, hlead.again
    apply hnodes
  rw [m'.value_reconsider_of_latest? hlatest']
  apply m'.adopt_snapshot now' table (hlead.usable he)

/-! ### All tables -/

/-- Whether there is nothing to do for a pass over the given tables: each tracked table is kept as it
is. -/
def Current (lookups : Lookups) (tables : ByName NodeStates) (m : Manager) : Prop :=
  ∀ (version : UInt64) (now : Nat) (table : String) (e : Entity), m.entity? table = some e →
    (m.reconsider lookups ⟨version, tables⟩ now table e).value = .keep e

/-- There is nothing to do any more after a pass. -/
theorem current_passed
    (hrates : ∀ table e, m.entity? table = some e → Scalar.usable e.snapshot.overall = true)
    (lookups : Lookups) (view : View) (now : Nat) :
  (m.passed lookups view now).Current lookups view.tables
  := by
  intro version now' table e' he'
  rw [entity?_passed] at he'
  obtain ⟨e, he, hverdict⟩ := Option.bind_eq_some_iff.mp he'
  apply reconsider_again (hrates table e he) hverdict rfl rfl

/-- Tables that are kept as they are make no difference to the registry and are not counted. -/
theorem value_sweep_of_keep {lookups : Lookups} {view : View} {now : Nat}
    {entries : List (String × Entity)}
    (hentries : ∀ table e, (table, e) ∈ entries → m.entity? table = some e ∧
      (m.reconsider lookups view now table e).value = .keep e) :
  (m.sweep lookups view now entries).value = ⟨m.registry, 0, 0⟩
  := by
  rw [value_sweep]
  induction entries with
  | nil => rfl
  | cons entry entries ih =>
      obtain ⟨table, e⟩ := entry
      obtain ⟨he, hkeep⟩ := hentries table e List.mem_cons_self
      rw [Progress.applyAll_cons, hkeep, Progress.apply, Registry.put_of_get? he]
      apply ih
      intro table e h
      apply hentries table e (List.mem_cons_of_mem _ h)

theorem value_sweep_of_current {lookups : Lookups} {tables : ByName NodeStates}
    (hm : m.Current lookups tables) (version : UInt64) (now : Nat) :
  (m.sweep lookups ⟨version, tables⟩ now m.registry.toList).value = ⟨m.registry, 0, 0⟩
  := by
  apply value_sweep_of_keep
  intro table e h
  have he : m.entity? table = some e := Registry.mem_toList.mp h
  use he, hm version now table e he

/-- A pass that has nothing to do moves the last version and nothing else. -/
theorem value_process_of_current {lookups : Lookups} {tables : ByName NodeStates}
    (hm : m.Current lookups tables) {version : UInt64} (hversion : m.lastVersion ≠ some version)
    (now : Nat) :
  (m.process lookups now (some ⟨version, tables⟩)).value =
    ({ m with lastVersion := some version }, .processed ⟨version, 0, 0, m.size⟩)
  := by
  rw [value_process]
  simp only [if_neg hversion, passed, value_sweep_of_current hm]
  rfl

/-! ### Further passes -/

theorem perform_of_current {lookups : Lookups} {tables : ByName NodeStates}
    (hm : m.Current lookups tables) (version : UInt64) (now : Nat) :
  m.perform lookups (.process now (some ⟨version, tables⟩)) =
    { m with lastVersion := some version }
  := by
  rw [perform]
  by_cases hversion : m.lastVersion = some version
  · simp only [value_process, if_pos hversion]
    rw [← hversion]
  · rw [value_process_of_current hm hversion]

/-- A pass over the given tables, at a time and with a version of its own. -/
def repeated (lookups : Lookups) (tables : ByName NodeStates) :
    Nat × UInt64 → Lookups × Operation :=
  fun (now, version) => (lookups, .process now (some ⟨version, tables⟩))

/-- However many passes have nothing to do, only the last version moves. -/
theorem run_of_current {lookups : Lookups} {tables : ByName NodeStates}
    (hm : m.Current lookups tables) (passes : List (Nat × UInt64)) :
  ∃ lastVersion, m.run (passes.map (repeated lookups tables)) = { m with lastVersion }
  := by
  induction passes generalizing m with
  | nil => exact ⟨m.lastVersion, rfl⟩
  | cons pass passes ih =>
      obtain ⟨now, version⟩ := pass
      -- What is decided about a table does not depend on the last version.
      have hnext : Current lookups tables { m with lastVersion := some version } := hm
      obtain ⟨lastVersion, h⟩ := ih hnext
      use lastVersion
      rw [List.map_cons, ← h, ← perform_of_current hm version now]
      rfl

end Manager

/-- After a pass of any manager that came about by operations, a further pass with the same answers and
over the same tables, under another version, evicts and rebuilds nothing: it moves the last version
and leaves every table as it is, whatever is tolerated.  So do any number of passes, even if their
versions return. -/
theorem process_again (localNode : String) (sink : Option Sink) (settings : QuotaSettings)
    {operations : List (Lookups × Operation)} {m : Manager}
    (hrun : (Manager.start localNode sink settings).run operations = m) {lookups : Lookups}
    {now : Nat} {version : UInt64} {tables : ByName NodeStates} {m' : Manager} {report : Report}
    (hpass : (m.process lookups now (some ⟨version, tables⟩)).value = (m', .processed report)) :
  (∀ again ≠ version, ∀ later, (m'.process lookups later (some ⟨again, tables⟩)).value =
      ({ m' with lastVersion := some again }, .processed ⟨again, 0, 0, m'.size⟩)) ∧
    ∀ passes : List (Nat × UInt64), ∃ lastVersion,
      m'.run (passes.map (Manager.repeated lookups tables)) = { m' with lastVersion }
  := by
  have hrates (table : String) (e : Entity) (he : m.entity? table = some e) :
      Scalar.usable e.snapshot.overall = true := by
    rw [← hrun] at he
    apply Manager.usable_run he
  rw [Manager.value_process] at hpass
  simp only at hpass
  split at hpass
  · cases hpass
  · cases hpass
    have hcurrent := Manager.current_passed hrates lookups ⟨version, tables⟩ now
    constructor
    · intro again hagain later
      apply Manager.value_process_of_current hcurrent
      intro hlast
      apply hagain (Option.some.inj hlast).symm
    · apply Manager.run_of_current hcurrent

/-- A negative tolerance, under which every difference of a share is applied: after a pass in which one
of three tables is rebuilt, one is evicted and of one the quota is read again, a pass over the same
tables does nothing. -/
theorem process_again_of_negative_tolerance :
  let quota : Option Quota := some ⟨some "60"⟩
  let states (n2 : NodeState) : NodeStates := .ofPairs [("n1", .online), ("n2", n2)]
  let first : View := ⟨1, .ofPairs [("a_OFFLINE", states .online), ("b_OFFLINE", states .online),
    ("c_OFFLINE", states .online)]⟩
  let stored := Store.ofConfigs [⟨"a_OFFLINE", quota⟩, ⟨"b_OFFLINE", quota⟩, ⟨"c_OFFLINE", quota⟩]
  let m := (Manager.start "n1" none ⟨1000, 1.0, -1.0⟩).run
    [(stored.lookups, .init 0 ⟨"a_OFFLINE", quota⟩ (some first)),
      (stored.lookups, .init 0 ⟨"b_OFFLINE", quota⟩ (some first)),
      (stored.lookups, .init 0 ⟨"c_OFFLINE", quota⟩ (some first)),
      (stored.lookups, .acquire 1 "a")]
  let lookups := (stored.set "c_OFFLINE" quota).value.1.lookups
  let tables : ByName NodeStates :=
    .ofPairs [("a_OFFLINE", states .offline), ("c_OFFLINE", states .online)]
  let pass := (m.process lookups 5 (some ⟨2, tables⟩)).value
  pass.2 = .processed ⟨2, 1, 1, 2⟩ ∧
    (pass.1.process lookups 9 (some ⟨1, tables⟩)).value =
      ({ pass.1 with lastVersion := some 1 }, .processed ⟨1, 0, 0, 2⟩)
  := by
  intro quota states first stored m lookups tables pass
  have hpass : pass.2 = .processed ⟨2, 1, 1, 2⟩ := by decide +kernel
  have hsize : pass.1.size = 2 := by decide +kernel
  obtain ⟨hagain, _⟩ := process_again "n1" none ⟨1000, 1.0, -1.0⟩ rfl
    (show (m.process lookups 5 (some ⟨2, tables⟩)).value = (pass.1, _) from Prod.ext rfl hpass)
  have h := hagain 1 (by decide) 9
  rw [hsize] at h
  exact ⟨hpass, h⟩

end QuotaShare
