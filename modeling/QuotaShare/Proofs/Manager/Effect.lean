import QuotaShare.Proofs.Manager.Rate

/-!
# The effect of a pass

What a pass leaves of each tracked table, told exactly: which tables are tracked on, with which
inputs of their rates, and when a limiter is touched.  The effect on a table depends on what is told
about this table alone.
-/

namespace QuotaShare

/-- Whether the answers about a table lead from the inputs `previous` of its rate to the version and
the overall rate of `latest`: the version is found, and the rate is the remembered one if the version
is, and that of the quota otherwise. -/
structure Lookups.Lead (lookups : Lookups) (table : String) (previous latest : Snapshot) : Prop where
  version : lookups.version table = .ok (some latest.version)
  remembered : latest.version = previous.version → latest.overall = previous.overall
  read : latest.version ≠ previous.version →
    ∃ quota, lookups.quota table = .ok (some quota) ∧ quota.rate? = some latest.overall

/-- An entity that takes over the inputs of its rate.  Its limiter is touched when the number of nodes
or the overall rate is new and the share differs from the rate by more than `epsilon`. -/
def Entity.renew (e : Entity) (epsilon : Float) (latest : Snapshot) (now : Nat) : Entity :=
  { e with
    limiter :=
      if (latest.nodes ≠ e.snapshot.nodes ∨ latest.overall ≠ e.snapshot.overall) ∧
          epsilon < (latest.share - e.limiter.rate).abs then
        e.limiter.setRate latest.share now
      else e.limiter
    snapshot := latest }

/-- Overall rates that answers lead to are usable if the remembered ones are. -/
theorem Lookups.Lead.usable {lookups : Lookups} {table : String} {previous latest : Snapshot}
    (h : lookups.Lead table previous latest) (hprevious : Scalar.usable previous.overall = true) :
  Scalar.usable latest.overall = true
  := by
  by_cases hversion : latest.version = previous.version
  · rw [h.remembered hversion]
    apply hprevious
  · obtain ⟨quota, _, hrate⟩ := h.read hversion
    apply Quota.usable_of_rate? hrate

/-- A limiter is not touched when neither the number of nodes nor the overall rate is new. -/
theorem Entity.renew_of_eq {e : Entity} {latest : Snapshot} (hnodes : latest.nodes = e.snapshot.nodes)
    (hoverall : latest.overall = e.snapshot.overall) (epsilon : Float) (now : Nat) :
  e.renew epsilon latest now = { e with snapshot := latest }
  := by
  rw [renew, if_neg]
  rintro ⟨hnew | hnew, _⟩
  · apply hnew hnodes
  · apply hnew hoverall

/-- When one of them is new, the share decides. -/
theorem Entity.renew_of_ne {e : Entity} {latest : Snapshot}
    (hnew : latest.nodes ≠ e.snapshot.nodes ∨ latest.overall ≠ e.snapshot.overall)
    (epsilon : Float) (now : Nat) :
  e.renew epsilon latest now =
    { e with
      limiter :=
        if epsilon < (latest.share - e.limiter.rate).abs then e.limiter.setRate latest.share now
        else e.limiter
      snapshot := latest }
  := by
  rw [renew]
  by_cases hdiffers : epsilon < (latest.share - e.limiter.rate).abs
  · rw [if_pos ⟨hnew, hdiffers⟩, if_pos hdiffers]
  · rw [if_neg fun h => hdiffers h.2, if_neg hdiffers]

namespace Manager

variable (m : Manager)

/-! ### One table -/

/-- The latest inputs of a table's rate are found when the view has the table and the answers lead to
them. -/
theorem value_latest?_eq_some_iff {lookups : Lookups} {view : View} {table : String}
    {previous latest : Snapshot} :
  (m.latest? lookups view table previous).value = some latest ↔
    (view.states? table).isSome = true ∧ lookups.Lead table previous latest ∧
      latest.nodes = view.onlineCount table m.localNode
  := by
  rw [value_latest?]
  constructor
  · intro h
    obtain ⟨states, hstates, h⟩ := Option.bind_eq_some_iff.mp h
    obtain ⟨version, hversion, h⟩ := Option.bind_eq_some_iff.mp h
    obtain ⟨overall, hoverall, rfl⟩ := Option.map_eq_some_iff.mp h
    obtain ⟨hremembered, hread⟩ := value_overallAt_eq_some_iff.mp hoverall
    refine ⟨Option.isSome_of_eq_some hstates, ?_, ?_⟩
    · exact ⟨join_toOption_eq_some_iff.mp hversion, hremembered, hread⟩
    · rw [← hstates]
      apply Snapshot.nodes_ofInputs
  · rintro ⟨hstates, hlead, hnodes⟩
    obtain ⟨states, hstates⟩ := Option.isSome_iff_exists.mp hstates
    apply Option.bind_eq_some_iff.mpr
    use states, hstates
    apply Option.bind_eq_some_iff.mpr
    use latest.version, join_toOption_eq_some_iff.mpr hlead.version
    apply Option.map_eq_some_iff.mpr
    use latest.overall, value_overallAt_eq_some_iff.mpr ⟨hlead.remembered, hlead.read⟩
    apply Snapshot.ext
    · rw [hnodes, ← hstates]
      apply Snapshot.nodes_ofInputs
    · rfl
    · rfl

/-- They are found when the view has the table, the store has a version for it, and the rate is
remembered for the version or can be read. -/
theorem isSome_value_latest?_iff {lookups : Lookups} {view : View} {table : String}
    {previous : Snapshot} :
  (m.latest? lookups view table previous).value.isSome = true ↔
    (view.states? table).isSome = true ∧
      ∃ version, lookups.version table = .ok (some version) ∧
        (version = previous.version ∨
          ∃ quota overall, lookups.quota table = .ok (some quota) ∧ quota.rate? = some overall)
  := by
  constructor
  · intro h
    obtain ⟨latest, h⟩ := Option.isSome_iff_exists.mp h
    obtain ⟨hstates, hlead, _⟩ := m.value_latest?_eq_some_iff.mp h
    use hstates, latest.version, hlead.version
    by_cases hversion : latest.version = previous.version
    · left
      apply hversion
    · right
      obtain ⟨quota, hquota, hrate⟩ := hlead.read hversion
      use quota, latest.overall
  · rintro ⟨hstates, version, hversion, hrate⟩
    have hoverall : ∃ overall, (overallAt lookups table previous version).value = some overall := by
      by_cases hsame : version = previous.version
      · use previous.overall
        rw [value_overallAt, if_pos hsame]
      · obtain hsame' | ⟨quota, overall, hquota, hrate⟩ := hrate
        · cases hsame hsame'
        · use overall
          rw [value_overallAt, if_neg hsame, join_toOption_eq_some_iff.mpr hquota]
          apply hrate
    obtain ⟨overall, hoverall⟩ := hoverall
    obtain ⟨hremembered, hread⟩ := value_overallAt_eq_some_iff.mp hoverall
    have hlead : lookups.Lead table previous
        (Snapshot.ofInputs (view.onlineCount table m.localNode) overall version) :=
      ⟨hversion, hremembered, hread⟩
    apply Option.isSome_of_eq_some
    apply m.value_latest?_eq_some_iff.mpr
    use hstates, hlead
    apply Snapshot.nodes_ofInputs

/-- An entity whose rate is usable takes over its latest inputs. -/
theorem entity?_adopt_eq_renew {lookups : Lookups} (now : Nat) {table : String} {e : Entity}
    (he : Scalar.usable e.snapshot.overall = true) {latest : Snapshot}
    (hlead : lookups.Lead table e.snapshot latest) :
  (m.adopt now table e latest).value.entity? = some (e.renew m.settings.epsilon latest now)
  := by
  have hbeq := beq_iff_eq_of_usable (y := e.snapshot.overall) (hlead.usable he)
  rw [adopt]
  split
  · rename_i hsame
    obtain ⟨hnodes, hoverall⟩ := hsame
    have hoverall := hbeq.mp hoverall
    rw [Entity.renew_of_eq hnodes hoverall]
    split
    · rename_i hversion
      rw [Snapshot.ext hnodes hoverall hversion]
      rfl
    · rfl
  · rename_i hsame
    rw [hbeq, not_and_or] at hsame
    rw [Entity.renew_of_ne hsame, differs]
    by_cases hdiffers : m.settings.epsilon < (latest.share - e.limiter.rate).abs
    · rw [decide_eq_true hdiffers, if_pos hdiffers]
      rfl
    · rw [decide_eq_false hdiffers, if_neg hdiffers]
      rfl

/-! ### All tables -/

/-- A table is tracked on when its latest inputs are found. -/
theorem isSome_entity?_passed_iff {lookups : Lookups} {view : View} {now : Nat} {table : String} :
  ((m.passed lookups view now).entity? table).isSome = true ↔
    ∃ e, m.entity? table = some e ∧
      (m.latest? lookups view table e.snapshot).value.isSome = true
  := by
  rw [entity?_passed, Option.isSome_bind, Option.any_eq_true]
  apply exists_congr
  intro e
  apply and_congr_right
  intro _
  rw [entity?_reconsider, Option.isSome_bind, Option.any_eq_true, Option.isSome_iff_exists]
  apply exists_congr
  intro latest
  constructor
  · rintro ⟨hlatest, _⟩
    apply hlatest
  · intro hlatest
    use hlatest
    obtain ⟨e', he', _⟩ := m.entity?_adopt now table e latest
    rw [he']
    rfl

/-- A table whose rate is usable is tracked on when its latest inputs are found, and takes them over. -/
theorem entity?_passed_eq_some_iff {lookups : Lookups} {view : View} {now : Nat} {table : String}
    {e : Entity} (he : m.entity? table = some e) (hrate : Scalar.usable e.snapshot.overall = true)
    {e' : Entity} :
  (m.passed lookups view now).entity? table = some e' ↔
    ∃ latest, (m.latest? lookups view table e.snapshot).value = some latest ∧
      e.renew m.settings.epsilon latest now = e'
  := by
  rw [entity?_passed, he, Option.bind_some, entity?_reconsider, Option.bind_eq_some_iff]
  apply exists_congr
  intro latest
  apply and_congr_right
  intro hlatest
  rw [m.entity?_adopt_eq_renew now hrate (m.value_latest?_eq_some_iff.mp hlatest).2.1,
    Option.some.injEq]

/-- What a pass leaves of a table depends on the answers about this table alone. -/
theorem entity?_passed_congr {lookups lookups' : Lookups} {table : String}
    (hversion : lookups'.version table = lookups.version table)
    (hquota : lookups'.quota table = lookups.quota table) (view : View) (now : Nat) :
  (m.passed lookups' view now).entity? table = (m.passed lookups view now).entity? table
  := by
  rw [entity?_passed, entity?_passed]
  apply Option.bind_congr
  intro e _
  rw [entity?_reconsider, entity?_reconsider, value_latest?, value_latest?, hversion]
  simp only [value_overallAt, hquota]

end Manager

/-- A pass over a view with a new version, for a manager whose overall rates are usable and whatever
is answered about the stored quotas.

It tracks on exactly those tables that the view has and for which a version is answered, if the rate
is remembered for this version or is read again.  The snapshot of such a table has the nodes of the
view, the version, and the rate; its entity is the same but for the snapshot and the limiter, which
is touched only when the nodes or the overall rate are new and the share differs too much from the
rate in use.  What is answered about a table makes no difference to another one. -/
theorem process_effect {m : Manager}
    (hrates : ∀ table e, m.entity? table = some e → Scalar.usable e.snapshot.overall = true)
    (lookups : Lookups) (now : Nat) {view : View} (hversion : m.lastVersion ≠ some view.version) :
  ∃ m' report, (m.process lookups now (some view)).value = (m', .processed report) ∧
    m' = { m with registry := m'.registry, lastVersion := some view.version } ∧
    (∀ table, (m'.entity? table).isSome = true ↔
      ∃ e, m.entity? table = some e ∧ (view.states? table).isSome = true ∧
        ∃ version, lookups.version table = .ok (some version) ∧
          (version = e.snapshot.version ∨
            ∃ quota overall, lookups.quota table = .ok (some quota) ∧ quota.rate? = some overall)) ∧
    (∀ table e e', m.entity? table = some e → m'.entity? table = some e' →
      e'.snapshot.nodes = view.onlineCount table m.localNode ∧
        lookups.Lead table e.snapshot e'.snapshot ∧
        e' = e.renew m.settings.epsilon e'.snapshot now) ∧
    ∀ lookups' table, lookups'.version table = lookups.version table →
      lookups'.quota table = lookups.quota table →
      (m.process lookups' now (some view)).value.1.entity? table = m'.entity? table
  := by
  have hprocess (lookups : Lookups) := m.value_process lookups now (some view)
  simp only [if_neg hversion] at hprocess
  refine ⟨m.passed lookups view now, _, hprocess lookups, rfl, ?_, ?_, ?_⟩
  · intro table
    simp only [Manager.isSome_entity?_passed_iff, Manager.isSome_value_latest?_iff]
  · intro table e e' he he'
    obtain ⟨latest, hlatest, rfl⟩ :=
      (m.entity?_passed_eq_some_iff he (hrates table e he)).mp he'
    obtain ⟨_, hlead, hnodes⟩ := m.value_latest?_eq_some_iff.mp hlatest
    use hnodes, hlead
    rfl
  · intro lookups' table hversion hquota
    rw [hprocess]
    apply m.entity?_passed_congr hversion hquota

/-- A pass in which the version of one of three tables cannot be read: this table is evicted, another
one gets a new rate, and of the third one, which the view has without nodes, the quota is read
again. -/
theorem process_effect_of_failure :
  let node := Manager.start "n1" none QuotaSettings.default
  let quota (rate : String) : Option Quota := some ⟨some rate⟩
  let stored := Store.ofConfigs [⟨"a_OFFLINE", quota "60"⟩, ⟨"b_OFFLINE", quota "60"⟩,
    ⟨"c_OFFLINE", quota "60"⟩]
  let states : NodeStates := .ofPairs [("n1", .online), ("n2", .online)]
  let first : View :=
    ⟨1, .ofPairs [("a_OFFLINE", states), ("b_OFFLINE", states), ("c_OFFLINE", states)]⟩
  let second : View := ⟨2, .ofPairs [("a_OFFLINE", .ofPairs [("n1", .online)]),
    ("b_OFFLINE", states), ("c_OFFLINE", ∅)]⟩
  let m := node.run [(stored.lookups, .init 0 ⟨"a_OFFLINE", quota "60"⟩ (some first)),
    (stored.lookups, .init 0 ⟨"b_OFFLINE", quota "60"⟩ (some first)),
    (stored.lookups, .init 0 ⟨"c_OFFLINE", quota "60"⟩ (some first))]
  let answers := (stored.put ⟨"c_OFFLINE", quota "90"⟩).value.1.lookups
  let failing := answers.failing .version "b_OFFLINE" "connection lost"
  (∀ table e, m.entity? table = some e → Scalar.usable e.snapshot.overall = true) ∧
    m.lastVersion ≠ some second.version ∧
    ∃ m' report, (m.process failing 5 (some second)).value = (m', .processed report) ∧
      m'.lastVersion = some 2 ∧ m'.entity? "b_OFFLINE" = none ∧
      (m'.entity? "a_OFFLINE").isSome = true ∧ (m'.entity? "c_OFFLINE").isSome = true ∧
      (m.process answers 5 (some second)).value.1.entity? "a_OFFLINE" = m'.entity? "a_OFFLINE"
  := by
  intro node quota stored states first second m answers failing
  have hrates (table : String) (e : Entity) (he : m.entity? table = some e) :
      Scalar.usable e.snapshot.overall = true :=
    (Manager.settled_run (m := node) _ (fun table e h => by
      rw [Manager.entity?_start] at h
      cases h) he).usable
  have hversion : m.lastVersion ≠ some second.version := by decide +kernel
  have ha : m.snapshot? "a_OFFLINE" = some ⟨2, 60.0, 0, by decide⟩ := by decide +kernel
  have hc : m.snapshot? "c_OFFLINE" = some ⟨2, 60.0, 2, by decide⟩ := by decide +kernel
  obtain ⟨a, ha, hsnapshot⟩ := Option.map_eq_some_iff.mp ha
  obtain ⟨c, hc, _⟩ := Option.map_eq_some_iff.mp hc
  obtain ⟨m', report, hprocess, hm', htracked, _, hother⟩ :=
    process_effect hrates failing 5 hversion
  refine ⟨hrates, hversion, m', report, hprocess, ?_, ?_, ?_, ?_, ?_⟩
  · rw [hm']
  · apply Option.not_isSome_iff_eq_none.mp
    intro hb
    obtain ⟨e, _, _, version, hversion, _⟩ := (htracked "b_OFFLINE").mp hb
    cases hversion
  · apply (htracked "a_OFFLINE").mpr
    use a, ha, by decide +kernel, 0, by decide +kernel
    left
    rw [hsnapshot]
  · apply (htracked "c_OFFLINE").mpr
    use c, hc, by decide +kernel, 3, by decide +kernel
    right
    use ⟨some "90"⟩, 90.0
    decide +kernel
  · apply hother answers "a_OFFLINE" rfl rfl

end QuotaShare
