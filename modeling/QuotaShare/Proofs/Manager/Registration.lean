import QuotaShare.Proofs.Limiter.Start
import QuotaShare.Proofs.Manager.Run

/-!
# The effect of a registration

When a table is registered, with what, and what a registration leaves alone.  A table is registered
exactly if its quota is a rate, a view is at hand and the version of the quota is found; it is then
tracked as one that was never seen before.  Otherwise nothing changes at all: so a table with a quota
that is refused is unlimited afterwards only if it was unlimited already.
-/

namespace QuotaShare

/-! ### Refused quotas -/

/-- Whether the quota of a table is absent, blank, or no finite positive number. -/
def TableConfig.Refused (c : TableConfig) : Prop :=
  ∀ quota, c.quota = some quota → ∀ raw, quota.raw? = some raw → ∀ x, Decimal.float? raw = some x →
    ¬ (x.isFinite = true ∧ 0.0 < x)

/-- The quotas that are refused are those that stand for no rate. -/
theorem TableConfig.refused_iff {c : TableConfig} :
  c.Refused ↔ c.rate? = none
  := by
  rw [rate?, Option.bind_eq_none_iff]
  apply forall₂_congr
  intro quota _
  rw [Quota.rate?, Option.filter_eq_none_iff]
  simp only [Option.bind_eq_some_iff, Bool.and_eq_true, decide_eq_true_eq, forall_exists_index,
    and_imp]
  constructor
  · intro h x raw hraw hx
    apply h raw hraw x hx
  · intro h raw hraw x hx
    apply h x raw hraw hx

/-! ### New entities -/

/-- No hits are counted by a counter that was just made. -/
theorem HitCounter.count_start (window origin now : Nat) :
  (start window origin).count now = 0
  := by
  rw [count, start, Vector.toList_replicate, List.filter_replicate]
  split <;> rfl

/-- Whether an entity is as new at `now`: its limiter runs at its share and has a single token, and
no hits were counted. -/
structure Entity.New (e : Entity) (settings : QuotaSettings) (now : Nat) : Prop where
  limiter : e.limiter = Limiter.start e.snapshot.share settings.burst now
  rate : e.limiter.rate = e.snapshot.share
  share : e.snapshot.share = e.snapshot.overall / Scalar.ofNat e.snapshot.nodes
  /-- Of the requests at this instant the first one is admitted, and the others only when the
  tolerance is the largest word. -/
  token : ∀ n, (e.limiter.acquireAll (List.replicate (n + 1) now)).1 =
    true :: List.replicate n (decide (e.limiter.pace.tolerance = Word.last))
  counter : e.hits = HitCounter.start settings.window now
  hits : ∀ later, e.hits.count later = 0

theorem Entity.new_start (s : Snapshot) (settings : QuotaSettings) (now : Nat) :
  (start s settings.window settings.burst now).New settings now
  := by
  constructor
  · rfl
  · rfl
  · rfl
  · apply Limiter.acquireAll_start_replicate s.share settings.burst now
  · rfl
  · apply HitCounter.count_start settings.window now

namespace Manager

variable (m : Manager)

/-! ### What a registration does -/

/-- A table can be registered when its quota is a rate, a view is at hand and a version is found. -/
theorem isSome_value_register?_iff (lookups : Lookups) (config : TableConfig)
    (view : Option View) :
  (m.register? lookups config view).value.isSome = true ↔
    config.rate?.isSome = true ∧ view.isSome = true ∧
      ∃ version, lookups.version config.table = .ok (some version)
  := by
  rw [Option.isSome_iff_exists]
  constructor
  · rintro ⟨s, h⟩
    obtain ⟨against, hview, _, hrate, hversion⟩ := m.value_register?_eq_some_iff.mp h
    use Option.isSome_of_eq_some hrate, Option.isSome_of_eq_some hview, s.version
  · rintro ⟨hrate, hview, version, hversion⟩
    obtain ⟨overall, hrate⟩ := Option.isSome_iff_exists.mp hrate
    obtain ⟨against, hview⟩ := Option.isSome_iff_exists.mp hview
    use Snapshot.ofInputs (against.onlineCount config.table m.localNode) overall version
    apply m.value_register?_eq_some_iff.mpr
    use against, hview, Snapshot.nodes_ofInputs .., hrate, hversion

/-- Of all that is answered about stored quotas, only the version of the table counts. -/
theorem value_register?_congr {lookups lookups' : Lookups} {config : TableConfig}
    (h : lookups'.version config.table = lookups.version config.table) (view : Option View) :
  (m.register? lookups' config view).value = (m.register? lookups config view).value
  := by
  rw [value_register?, value_register?, h]

/-- Whether no limiter is in the way of queries against a table. -/
structure Unlimited (table : String) : Prop where
  snapshot : m.snapshot? table = none
  rate : m.rate? table = none
  admitted : (Variant.ofName? table).isSome = true →
    ∀ now, (m.acquire now table).value.admitted = true

/-- The tables without a limiter are those that are not tracked. -/
theorem unlimited_iff {table : String} :
  m.Unlimited table ↔ m.entity? table = none
  := by
  constructor
  · intro h
    apply Option.map_eq_none_iff.mp h.snapshot
  · intro h
    constructor
    · rw [snapshot?, h]
      rfl
    · rw [rate?, h]
      rfl
    · intro hqualified now
      rw [admitted_acquire m hqualified, h]

end Manager

/-- A registration, whatever the manager, the answers about the stored quotas, and the view.

It succeeds exactly if the quota is a rate, a view is given, and a version is answered for the table.
The table is then tracked by a new entity, with the nodes that the view has for it, which is the local
one alone when the view does not have the table, and the configured rate and the version; otherwise
nothing changes.  Other tables and the last version stay as they are in any case, and no answer but
that about the version of the table makes a difference. -/
theorem init_effect (m : Manager) (lookups : Lookups) (now : Nat) (config : TableConfig)
    (view : Option View) :
  ∃ m' answer, (m.init lookups now config view).value = (m', answer) ∧
    (answer = true ↔ config.rate?.isSome = true ∧ view.isSome = true ∧
      ∃ version, lookups.version config.table = .ok (some version)) ∧
    (answer = true → ∃ e, m'.entity? config.table = some e ∧ e.New m.settings now ∧
      (∃ against, view = some against ∧
        e.snapshot.nodes = NodeStates.onlineCount (against.states? config.table) m.localNode) ∧
      config.rate? = some e.snapshot.overall ∧
      lookups.version config.table = .ok (some e.snapshot.version)) ∧
    (answer = false → m' = m) ∧
    (∀ other, other ≠ config.table → m'.entity? other = m.entity? other) ∧
    m' = { m with registry := m'.registry } ∧
    ∀ lookups', lookups'.version config.table = lookups.version config.table →
      (m.init lookups' now config view).value = (m', answer)
  := by
  have hanswer := m.isSome_value_register?_iff lookups config view
  have hcongr (lookups' : Lookups)
      (h : lookups'.version config.table = lookups.version config.table) :
      (m.init lookups' now config view).value = (m.init lookups now config view).value := by
    rw [m.value_init lookups', m.value_init lookups, m.value_register?_congr h]
  rw [m.value_init lookups] at hcongr ⊢
  cases hregister : (m.register? lookups config view).value with
  | none =>
      rw [hregister] at hanswer hcongr
      exact ⟨m, false, rfl, hanswer, nofun, fun _ => rfl, fun _ _ => rfl, rfl, hcongr⟩
  | some s =>
      rw [hregister] at hanswer hcongr
      obtain ⟨against, hview, hnodes, hrate, hversion⟩ :=
        m.value_register?_eq_some_iff.mp hregister
      refine ⟨_, true, rfl, hanswer, ?_, nofun, ?_, rfl, hcongr⟩
      · intro _
        use Entity.start s m.settings.window m.settings.burst now
        refine ⟨?_, Entity.new_start s m.settings now, ⟨against, hview, hnodes⟩, hrate, hversion⟩
        apply (Registry.get?_put m.registry config.table config.table _).trans
        apply if_pos rfl
      · intro other hother
        apply (Registry.get?_put m.registry config.table other _).trans
        apply if_neg hother.symm

/-- A table that the view does not have is registered with the local node alone, although the quota of
its other variant cannot be read. -/
example :
    let m := Manager.start "n1" none QuotaSettings.default
    let config : TableConfig := ⟨"t_OFFLINE", some ⟨some " 60 "⟩⟩
    let lookups := (Store.ofConfigs [config]).lookups.failing .quota "t_REALTIME" "connection lost"
    let result := (m.init lookups 0 config (some (View.empty 1))).value
    result.2 = true ∧ result.1.snapshot? "t_OFFLINE" = some ⟨1, 60.0, 0, by decide⟩ := by
  decide +kernel

/-! ### Registrations with refused quotas -/

/-- A registration with a quota that is refused changes nothing.  A table that is tracked keeps its
limiter, so the table is unlimited afterwards exactly if it was not tracked before. -/
theorem unlimited_after_refusal_iff (m : Manager) (lookups : Lookups) (now : Nat)
    {config : TableConfig} (hrefused : config.Refused) (view : Option View) :
  ∃ m', (m.init lookups now config view).value = (m', false) ∧ m' = m ∧
    (m'.Unlimited config.table ↔ m.entity? config.table = none)
  := by
  have hregister : (m.register? lookups config view).value = none := by
    apply Option.not_isSome_iff_eq_none.mp
    intro h
    obtain ⟨hrate, _⟩ := (m.isSome_value_register?_iff lookups config view).mp h
    rw [TableConfig.refused_iff.mp hrefused] at hrate
    cases hrate
  refine ⟨m, ?_, rfl, m.unlimited_iff⟩
  rw [m.value_init, hregister]

/-- A table whose quota is no number, while its other variant is tracked. -/
theorem unlimited_after_refusal_of_other_variant :
  let quota (rate : String) : Option Quota := some ⟨some rate⟩
  let view : View := ⟨1, .ofPairs [("t_OFFLINE", .ofPairs [("n1", .online), ("n2", .online)])]⟩
  let lookups := (Store.ofConfigs [⟨"t_OFFLINE", quota "10"⟩, ⟨"t_REALTIME", quota "nan"⟩]).lookups
  let m := (Manager.start "n1" none QuotaSettings.default).run
    [(lookups, .init 0 ⟨"t_OFFLINE", quota "10"⟩ (some view))]
  let config : TableConfig := ⟨"t_REALTIME", quota "nan"⟩
  config.Refused ∧
    ∃ m', (m.init lookups 1 config (some view)).value = (m', false) ∧ m' = m ∧
      m'.Unlimited "t_REALTIME" ∧ m'.rate? "t_OFFLINE" = some 5.0
  := by
  intro quota view lookups m config
  have hrefused : config.Refused := TableConfig.refused_iff.mpr (by decide +kernel)
  have huntracked : m.entity? "t_REALTIME" = none := by decide +kernel
  have hother : m.rate? "t_OFFLINE" = some 5.0 := by decide +kernel
  obtain ⟨m', hinit, hsame, hunlimited⟩ :=
    unlimited_after_refusal_iff m lookups 1 hrefused (some view)
  refine ⟨hrefused, m', hinit, hsame, hunlimited.mpr huntracked, ?_⟩
  rw [hsame, hother]

/-- A table that is registered again with a quota that is no number keeps its limiter, which refuses
the second query. -/
theorem limited_after_refusal :
  let quota (rate : String) : Option Quota := some ⟨some rate⟩
  let view : View := ⟨1, .ofPairs [("t_OFFLINE", .ofPairs [("n1", .online), ("n2", .online)])]⟩
  let config : TableConfig := ⟨"t_OFFLINE", quota "abc"⟩
  let actions : List Action :=
    [.write "t_OFFLINE" (quota "10"), .perform (.init 0 ⟨"t_OFFLINE", quota "10"⟩ (some view)),
      .perform (.acquire 0 "t_OFFLINE"), .write "t_OFFLINE" (quota "abc")]
  let s := Service.run ⟨Manager.start "n1" none QuotaSettings.default, Store.empty⟩ actions
  let m := (s.manager.init s.store.lookups 0 config (some view)).value.1
  config.Refused ∧ m.snapshot? "t_OFFLINE" = some ⟨2, 10.0, 0, by decide⟩ ∧
    m.rate? "t_OFFLINE" = some 5.0 ∧ (m.acquire 0 "t_OFFLINE").value.admitted = false
  := by
  intro quota view config actions s m
  have hrefused : config.Refused := TableConfig.refused_iff.mpr (by decide +kernel)
  use hrefused
  decide +kernel

end QuotaShare
