import Mathlib.Data.List.Perm.Basic
import QuotaShare.Proofs.Manager.Effect

/-!
# The report of a pass

The counts that a pass reports are counts of tables: of those that are tracked on, of those that are
not, and of those that run at another rate than before.  A table is counted by its verdict, before
the verdict is carried out; so what has to be shown is that the verdicts tell what becomes of the
tables: a limiter that is to get a new rate gets it, and the rate is a new one.
-/

namespace QuotaShare

/-! ### One table -/

theorem Entity.snapshot_renew (e : Entity) (epsilon : Float) (latest : Snapshot) (now : Nat) :
  (e.renew epsilon latest now).snapshot = latest
  := rfl

/-- An entity that takes over the inputs of its rate has a new rate exactly when its limiter is
touched, since the share that differs from the rate is applied. -/
theorem Entity.rate_renew_ne_iff {e : Entity} {latest : Snapshot} {epsilon : Float}
    (hepsilon : 0.0 ≤ epsilon) (hshare : Scalar.usable latest.share = true) (now : Nat) :
  (e.renew epsilon latest now).limiter.rate ≠ e.limiter.rate ↔
    (latest.nodes ≠ e.snapshot.nodes ∨ latest.overall ≠ e.snapshot.overall) ∧
      epsilon < (latest.share - e.limiter.rate).abs
  := by
  rw [renew]
  split
  · rename_i htouched
    rw [Limiter.setRate, if_pos hshare]
    apply iff_of_true _ htouched
    apply ne_of_lt_abs_sub hepsilon hshare htouched.2
  · rename_i huntouched
    apply iff_of_false _ huntouched
    intro hne
    apply hne rfl

namespace Manager

variable {m : Manager} {lookups : Lookups} {view : View} {now : Nat} {table : String} {e : Entity}

/-- A limiter is to get a new rate when the number of nodes or the overall rate is new and the share
differs from the rate. -/
theorem isRebuild_adopt_iff (he : Scalar.usable e.snapshot.overall = true) {latest : Snapshot}
    (hlead : lookups.Lead table e.snapshot latest) :
  (m.adopt now table e latest).value.isRebuild = true ↔
    (latest.nodes ≠ e.snapshot.nodes ∨ latest.overall ≠ e.snapshot.overall) ∧
      m.settings.epsilon < (latest.share - e.limiter.rate).abs
  := by
  have hbeq := beq_iff_eq_of_usable (y := e.snapshot.overall) (hlead.usable he)
  rw [adopt]
  split
  · rename_i hsame
    rw [hbeq] at hsame
    apply iff_of_false Bool.false_ne_true
    rintro ⟨hnew | hnew, _⟩
    · apply hnew hsame.1
    · apply hnew hsame.2
  · rename_i hsame
    rw [hbeq, not_and_or] at hsame
    cases hdiffers : m.differs latest.share e.limiter.rate with
    | true => exact iff_of_true rfl ⟨hsame, of_decide_eq_true hdiffers⟩
    | false =>
        apply iff_of_false Bool.false_ne_true
        intro h
        apply of_decide_eq_false hdiffers h.2

/-- The verdict on a table says that its limiter gets a new rate exactly when the table is tracked on
at another rate, provided that something is left of its share. -/
theorem isRebuild_reconsider_iff (hepsilon : 0.0 ≤ m.settings.epsilon)
    (he : Scalar.usable e.snapshot.overall = true)
    (hshare : ∀ e', (m.reconsider lookups view now table e).value.entity? = some e' →
      (e'.snapshot.share == 0.0) = false) :
  (m.reconsider lookups view now table e).value.isRebuild = true ↔
    ∃ e', (m.reconsider lookups view now table e).value.entity? = some e' ∧
      e'.limiter.rate ≠ e.limiter.rate
  := by
  cases hlatest : (m.latest? lookups view table e.snapshot).value with
  | none =>
      rw [reconsider, Traced.value_bind, hlatest]
      apply iff_of_false Bool.false_ne_true
      rintro ⟨e', he', _⟩
      cases he'
  | some latest =>
      obtain ⟨_, hlead, _⟩ := m.value_latest?_eq_some_iff.mp hlatest
      have hrenew := m.entity?_adopt_eq_renew now he hlead
      rw [m.value_reconsider_of_latest? hlatest] at hshare ⊢
      have hleft := hshare _ hrenew
      rw [Entity.snapshot_renew] at hleft
      have husable := Snapshot.usable_share (hlead.usable he) hleft
      have hrate := Entity.rate_renew_ne_iff (e := e) hepsilon husable now
      rw [isRebuild_adopt_iff he hlead, ← hrate, hrenew]
      simp only [Option.some.injEq, exists_eq_left']

/-! ### The tracked tables -/

/-- The names of the tracked tables, in order. -/
def tables (m : Manager) : List String :=
  m.registry.toList.map Prod.fst

theorem length_tables (m : Manager) :
  m.tables.length = m.size
  := by
  rw [tables, List.length_map, Registry.toList, Std.ExtTreeMap.length_toList]
  rfl

theorem mem_tables_iff :
  table ∈ m.tables ↔ (m.entity? table).isSome = true
  := by
  rw [tables, List.mem_map, Option.isSome_iff_exists]
  constructor
  · rintro ⟨⟨table, e⟩, hlisted, rfl⟩
    use e, Registry.mem_toList.mp hlisted
  · rintro ⟨e, he⟩
    use (table, e), Registry.mem_toList.mpr he

theorem nodup_tables (m : Manager) :
  m.tables.Nodup
  := by
  rw [tables, List.nodup_iff_pairwise_ne, List.pairwise_map]
  apply m.registry.pairwise_toList

/-- A count of the tracked tables is a count of what is registered. -/
theorem countP_tables (m : Manager) {p : String → Bool} (q : String → Entity → Bool)
    (h : ∀ table e, m.entity? table = some e → p table = q table e) :
  m.tables.countP p = m.registry.toList.countP fun entry => q entry.1 entry.2
  := by
  rw [tables, List.countP_map]
  apply List.countP_congr
  intro entry hlisted
  rw [Function.comp_apply, h entry.1 entry.2 (Registry.mem_toList.mp hlisted)]

/-- A pass tracks on some of the tables, and no other ones. -/
theorem tables_passed_perm (m : Manager) (lookups : Lookups) (view : View) (now : Nat) :
  (m.passed lookups view now).tables.Perm
    (m.tables.filter fun table => ((m.passed lookups view now).entity? table).isSome)
  := by
  apply (List.perm_ext_iff_of_nodup (nodup_tables _) (m.nodup_tables.filter _)).mpr
  intro table
  rw [List.mem_filter, mem_tables_iff, mem_tables_iff, iff_and_self]
  intro h
  obtain ⟨e, he, _⟩ := m.isSome_entity?_passed_iff.mp h
  apply Option.isSome_of_eq_some he

/-- The tables that are tracked on and those that are not are together those that were tracked. -/
theorem countP_isNone_add_size_passed (m : Manager) (lookups : Lookups) (view : View) (now : Nat) :
  (m.tables.countP fun table => ((m.passed lookups view now).entity? table).isNone) +
    (m.passed lookups view now).size = m.size
  := by
  have hsome (table : String) : ((m.passed lookups view now).entity? table).isSome =
      decide ¬ ((m.passed lookups view now).entity? table).isNone = true := by
    cases (m.passed lookups view now).entity? table <;> rfl
  rw [← length_tables, ← length_tables, (m.tables_passed_perm lookups view now).length_eq,
    ← List.countP_eq_length_filter, funext hsome, ← List.length_eq_countP_add_countP]

/-! ### Counts -/

/-- Each verdict on a table that is found is counted once. -/
theorem Progress.Finds.counts_applyAll {p : Progress} {entries : List (String × Entity)}
    (h : p.Finds entries) (verdict : String → Entity → Verdict) :
  (p.applyAll verdict entries).rebuilt =
      p.rebuilt + entries.countP (fun entry => (verdict entry.1 entry.2).isRebuild) ∧
    (p.applyAll verdict entries).evicted =
      p.evicted + entries.countP (fun entry => (verdict entry.1 entry.2).isEvict)
  := by
  induction entries generalizing p with
  | nil => exact ⟨rfl, rfl⟩
  | cons entry entries ih =>
      obtain ⟨t, e⟩ := entry
      obtain ⟨hrebuilt, hevicted⟩ := ih (h.apply (verdict t e))
      rw [rebuilt_apply] at hrebuilt
      rw [evicted_apply, h.removeIfSame, Bool.and_true] at hevicted
      rw [List.countP_cons, List.countP_cons]
      constructor
      · apply hrebuilt.trans ((Nat.add_right_comm ..).trans (Nat.add_assoc ..))
      · apply hevicted.trans ((Nat.add_right_comm ..).trans (Nat.add_assoc ..))

/-- A pass counts each of its verdicts once. -/
theorem counts_sweep (m : Manager) (lookups : Lookups) (view : View) (now : Nat) :
  (m.sweep lookups view now m.registry.toList).value.rebuilt =
      m.registry.toList.countP (fun entry =>
        (m.reconsider lookups view now entry.1 entry.2).value.isRebuild) ∧
    (m.sweep lookups view now m.registry.toList).value.evicted =
      m.registry.toList.countP (fun entry =>
        (m.reconsider lookups view now entry.1 entry.2).value.isEvict)
  := by
  obtain ⟨hrebuilt, hevicted⟩ := (Progress.Finds.of_perm (List.Perm.refl _) 0 0).counts_applyAll
    fun t e => (m.reconsider lookups view now t e).value
  rw [value_sweep, hrebuilt, hevicted, Nat.zero_add, Nat.zero_add]
  exact ⟨rfl, rfl⟩

/-- A pass counts as evicted the tables that are not tracked on. -/
theorem evicted_sweep (m : Manager) (lookups : Lookups) (view : View) (now : Nat) :
  (m.sweep lookups view now m.registry.toList).value.evicted =
    m.tables.countP fun table => ((m.passed lookups view now).entity? table).isNone
  := by
  rw [(m.counts_sweep lookups view now).2]
  symm
  apply m.countP_tables fun table e => (m.reconsider lookups view now table e).value.isEvict
  intro table e he
  rw [entity?_passed, he, Option.bind_some, Verdict.isEvict_eq]

/-- A pass counts as rebuilt the tables that are tracked on at another rate. -/
theorem rebuilt_sweep (hepsilon : 0.0 ≤ m.settings.epsilon)
    (hrates : ∀ table e, m.entity? table = some e → Scalar.usable e.snapshot.overall = true)
    (hshares : ∀ table s, (m.passed lookups view now).snapshot? table = some s →
      (s.share == 0.0) = false) :
  (m.sweep lookups view now m.registry.toList).value.rebuilt =
    (m.passed lookups view now).tables.countP fun table =>
      (m.passed lookups view now).rate? table ≠ m.rate? table
  := by
  rw [(m.counts_sweep lookups view now).1, (m.tables_passed_perm lookups view now).countP_eq,
    List.countP_filter]
  symm
  apply m.countP_tables fun table e => (m.reconsider lookups view now table e).value.isRebuild
  intro table e he
  have hpassed : (m.passed lookups view now).entity? table =
      (m.reconsider lookups view now table e).value.entity? := by
    rw [entity?_passed, he, Option.bind_some]
  rw [Bool.eq_iff_iff, isRebuild_reconsider_iff hepsilon (hrates table e he), Bool.and_eq_true,
    decide_eq_true_iff, rate?, rate?, he, hpassed]
  · cases (m.reconsider lookups view now table e).value.entity? with
    | none => simp
    | some e' => simp
  · intro e' he'
    apply hshares table
    rw [snapshot?, hpassed, he']
    rfl

end Manager

/-- Every report of a pass is truthful.  After a pass of any manager that came about by operations,
over a view with a new version and with a tolerance that is not negative, as long as something is
left of the shares of the tables that are tracked on: the tables that are counted as remaining are
those that are tracked, those that are counted as evicted are those that were tracked and are not
any more, so that both together are those that were tracked before, and those that are counted as
rebuilt are those that are tracked at another rate than before. -/
theorem report_truthful (localNode : String) (sink : Option Sink) (settings : QuotaSettings)
    (hepsilon : 0.0 ≤ settings.epsilon) {operations : List (Lookups × Operation)} {m : Manager}
    (hrun : (Manager.start localNode sink settings).run operations = m) (lookups : Lookups)
    (now : Nat) {view : View} (hversion : m.lastVersion ≠ some view.version)
    (hshares : ∀ table s,
      (m.process lookups now (some view)).value.1.snapshot? table = some s →
      (s.share == 0.0) = false) :
  ∃ m' report, (m.process lookups now (some view)).value = (m', .processed report) ∧
    report.version = view.version ∧
    report.evicted + report.remaining = m.size ∧
    report.remaining = m'.size ∧
    report.evicted = m.tables.countP (fun table => (m'.entity? table).isNone) ∧
    report.rebuilt = m'.tables.countP (fun table => m'.rate? table ≠ m.rate? table)
  := by
  have hrates (table : String) (e : Entity) (he : m.entity? table = some e) :
      Scalar.usable e.snapshot.overall = true := by
    rw [← hrun] at he
    apply Manager.usable_run he
  have hsettings : m.settings = settings := by
    rw [← hrun, (Manager.fixed_run _ operations).2]
    rfl
  have hprocess := m.value_process lookups now (some view)
  simp only [if_neg hversion] at hprocess
  rw [hprocess] at hshares
  rw [← hsettings] at hepsilon
  have hevicted := m.evicted_sweep lookups view now
  refine ⟨_, _, hprocess, rfl, ?_, rfl, hevicted, Manager.rebuilt_sweep hepsilon hrates hshares⟩
  rw [hevicted]
  apply m.countP_isNone_add_size_passed

/-- Three tables, of which one has a node less, one is not in the view any more, and of one the quota
is written again with a rate that makes too small a difference to the share. -/
theorem report_truthful_of_three :
  let quota (rate : String) : Option Quota := some ⟨some rate⟩
  let states (n2 : NodeState) : NodeStates := .ofPairs [("n1", .online), ("n2", n2)]
  let first : View := ⟨1, .ofPairs [("a_OFFLINE", states .online), ("b_OFFLINE", states .online),
    ("c_OFFLINE", states .online)]⟩
  let second : View :=
    ⟨2, .ofPairs [("a_OFFLINE", states .offline), ("c_OFFLINE", states .online)]⟩
  let stored := Store.ofConfigs [⟨"a_OFFLINE", quota "60"⟩, ⟨"b_OFFLINE", quota "60"⟩,
    ⟨"c_OFFLINE", quota "60"⟩]
  let m := (Manager.start "n1" none QuotaSettings.default).run
    [(stored.lookups, .init 0 ⟨"a_OFFLINE", quota "60"⟩ (some first)),
      (stored.lookups, .init 0 ⟨"b_OFFLINE", quota "60"⟩ (some first)),
      (stored.lookups, .init 0 ⟨"c_OFFLINE", quota "60"⟩ (some first))]
  let lookups := (stored.set "c_OFFLINE" (quota "60.001")).value.1.lookups
  let after := (m.process lookups 5 (some second)).value.1
  0.0 ≤ QuotaSettings.default.epsilon ∧ m.lastVersion ≠ some second.version ∧
    (∀ table s, after.snapshot? table = some s → (s.share == 0.0) = false) ∧
    after.rate? "a_OFFLINE" = some 60.0 ∧ after.rate? "c_OFFLINE" = some 30.0 ∧
    after.snapshot? "c_OFFLINE" = some ⟨2, 60.001, 3, by decide⟩ ∧
    ∃ report, (m.process lookups 5 (some second)).value = (after, .processed report) ∧
      report.evicted + report.remaining = 3 ∧ report.remaining = after.size ∧
      report.evicted = 1 ∧ report.rebuilt = 1
  := by
  intro quota states first second stored m lookups after
  have hepsilon : 0.0 ≤ QuotaSettings.default.epsilon := by decide +kernel
  have hversion : m.lastVersion ≠ some second.version := by decide +kernel
  have hlisted : ∀ entry ∈ after.registry.toList, (entry.2.snapshot.share == 0.0) = false := by
    decide +kernel
  have hshares (table : String) (s : Snapshot) (hs : after.snapshot? table = some s) :
      (s.share == 0.0) = false := by
    obtain ⟨e, he, rfl⟩ := Option.map_eq_some_iff.mp hs
    apply hlisted _ (Registry.mem_toList.mpr he)
  have hrates : after.rate? "a_OFFLINE" = some 60.0 ∧ after.rate? "c_OFFLINE" = some 30.0 ∧
      after.snapshot? "c_OFFLINE" = some ⟨2, 60.001, 3, by decide⟩ := by
    decide +kernel
  have hsize : m.size = 3 := by decide +kernel
  have hevict : m.tables.countP (fun table => (after.entity? table).isNone) = 1 := by
    decide +kernel
  have hrebuild : after.tables.countP (fun table => after.rate? table ≠ m.rate? table) = 1 := by
    decide +kernel
  have hreport := report_truthful "n1" none QuotaSettings.default hepsilon (m := m) rfl lookups 5
    hversion hshares
  -- What was to be computed is known by now, and is not to be computed again.
  clear_value m lookups
  obtain ⟨m', report, hprocess, _, htracked, hremaining, hevicted, hrebuilt⟩ := hreport
  have hafter : m' = after := (congrArg Prod.fst hprocess).symm
  rw [hafter] at hprocess hremaining hevicted hrebuilt
  rw [hsize] at htracked
  rw [hevict] at hevicted
  rw [hrebuild] at hrebuilt
  exact ⟨hepsilon, hversion, hshares, hrates.1, hrates.2.1, hrates.2.2, report, hprocess, htracked,
    hremaining, hevicted, hrebuilt⟩

end QuotaShare
