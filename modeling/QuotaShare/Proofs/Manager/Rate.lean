import QuotaShare.Proofs.Float.Share
import QuotaShare.Proofs.Manager.Run

/-!
# The rates of tracked tables

However many changes are too small to be applied, the rate of a table never drifts away from its
share: after every run it is the share of the table's snapshot, or differs from it by no more than
is tolerated.  The changes do not add up because a new share is compared with the rate that is in
use.
-/

namespace QuotaShare

/-- Whether the rate of an entity is the share of its snapshot, or differs from it by no more than
`epsilon`.  Nothing is known of a rate whose share is so small that nothing is left of it. -/
structure Entity.Settled (epsilon : Float) (e : Entity) : Prop where
  usable : Scalar.usable e.snapshot.overall = true
  close : (e.snapshot.share == 0.0) = false →
    e.limiter.rate = e.snapshot.share ∨ ¬ epsilon < (e.snapshot.share - e.limiter.rate).abs

/-- A new entity runs at its share. -/
theorem Entity.settled_start {epsilon : Float} {s : Snapshot} (window : Nat) (burst : Float)
    (now : Nat) (h : Scalar.usable s.overall = true) :
  (Entity.start s window burst now).Settled epsilon
  := ⟨h, fun _ => .inl rfl⟩

/-- Whether an entity is settled depends on its snapshot and its rate alone. -/
theorem Entity.Settled.of_eq {epsilon : Float} {e e' : Entity} (he : e.Settled epsilon)
    (hsnapshot : e'.snapshot = e.snapshot) (hrate : e'.limiter.rate = e.limiter.rate) :
  e'.Settled epsilon
  := by
  constructor
  · rw [hsnapshot]
    apply he.usable
  · rw [hsnapshot, hrate]
    apply he.close

/-- The share of a usable rate is usable, unless nothing is left of it. -/
theorem Snapshot.usable_share {s : Snapshot} (h : Scalar.usable s.overall = true)
    (hne : (s.share == 0.0) = false) :
  Scalar.usable s.share = true
  := by
  obtain hzero | husable := share_eq_zero_or_usable h s.one_le_nodes
  · cases hne.symm.trans hzero
  · apply husable

namespace Manager

/-! ### One operation -/

/-- A registered table has a usable overall rate. -/
theorem usable_of_register? {m : Manager} {lookups : Lookups} {config : TableConfig}
    {view : Option View} {s : Snapshot} (h : (m.register? lookups config view).value = some s) :
  Scalar.usable s.overall = true
  := by
  obtain ⟨_, _, _, hrate, _⟩ := m.value_register?_eq_some_iff.mp h
  obtain ⟨quota, _, hrate⟩ := Option.bind_eq_some_iff.mp hrate
  apply Quota.usable_of_rate? hrate

/-- An entity stays settled when it takes over the inputs of its rate. -/
theorem settled_adopt {m : Manager} {now : Nat} {table : String} {e e' : Entity} {latest : Snapshot}
    (he : e.Settled m.settings.epsilon) (husable : Scalar.usable latest.overall = true)
    (h : (m.adopt now table e latest).value.entity? = some e') :
  e'.Settled m.settings.epsilon
  := by
  obtain ⟨e'', he'', hcases⟩ := m.entity?_adopt now table e latest
  obtain rfl := Option.some.inj (he''.symm.trans h)
  obtain ⟨hnodes, hbeq, hlimiter, hsnapshot⟩ | ⟨_, hsnapshot, hlimiter⟩ |
    ⟨hdiffers, hsnapshot, hlimiter⟩ := hcases
  · -- The nodes and the overall rate are the same: so is the share.
    obtain hsnapshot | ⟨_, hsnapshot⟩ := hsnapshot
    · have hshare : latest.share = e.snapshot.share := by
        rw [Snapshot.share, hnodes, eq_of_beq_of_usable husable hbeq]
        rfl
      constructor
      · rw [hsnapshot]
        apply husable
      · rw [hsnapshot, hlimiter, hshare]
        apply he.close
    · apply he.of_eq hsnapshot
      rw [hlimiter]
  · -- The share differs from the rate: it becomes the rate, which is not refused.
    constructor
    · rw [hsnapshot]
      apply husable
    · intro hne
      left
      rw [hsnapshot] at hne ⊢
      rw [hlimiter, Limiter.setRate, if_pos (Snapshot.usable_share husable hne)]
  · -- The share does not differ from the rate that is in use, whatever the share was before.
    constructor
    · rw [hsnapshot]
      apply husable
    · intro _
      right
      rw [hsnapshot, hlimiter]
      apply of_decide_eq_false hdiffers

/-- An entity stays settled in a pass that tracks it on. -/
theorem settled_reconsider {m : Manager} {lookups : Lookups} {view : View} {now : Nat}
    {table : String} {e e' : Entity} (he : e.Settled m.settings.epsilon)
    (h : (m.reconsider lookups view now table e).value.entity? = some e') :
  e'.Settled m.settings.epsilon
  := by
  rw [entity?_reconsider] at h
  obtain ⟨latest, hlatest, h⟩ := Option.bind_eq_some_iff.mp h
  obtain ⟨_, overall, _, hoverall, rfl⟩ := m.exists_of_latest? hlatest
  apply settled_adopt he _ h
  apply usable_overallAt he.usable hoverall

/-- Every operation keeps the tracked tables settled. -/
theorem settled_perform {m : Manager} {lookups : Lookups} {operation : Operation}
    (hm : ∀ table e, m.entity? table = some e → e.Settled m.settings.epsilon)
    {table : String} {e' : Entity} (h : (m.perform lookups operation).entity? table = some e') :
  e'.Settled m.settings.epsilon
  := by
  obtain ⟨now, _, _, s, _, _, hs, rfl⟩ | ⟨e, now, k, he, rfl, _⟩ |
    ⟨_, _, e, _, _, he, hverdict⟩ := entity?_perform h
  · apply Entity.settled_start _ _ now (usable_of_register? hs)
  · apply (hm table e he).of_eq (e.snapshot_charge now k) (e.rate_charge now k)
  · apply settled_reconsider (hm table e he) hverdict

/-! ### Runs -/

theorem settled_run {m : Manager} (operations : List (Lookups × Operation))
    (hm : ∀ table e, m.entity? table = some e → e.Settled m.settings.epsilon)
    {table : String} {e : Entity} (h : (m.run operations).entity? table = some e) :
  e.Settled m.settings.epsilon
  := by
  induction operations generalizing m with
  | nil => apply hm table e h
  | cons operation operations ih =>
      rw [← (m.fixed_perform operation.1 operation.2).2]
      apply ih _ h
      rw [(m.fixed_perform operation.1 operation.2).2]
      intro table e he
      apply settled_perform hm he

/-- The overall rates of the tables that a manager tracks are usable, whatever was done to it. -/
theorem usable_run {localNode : String} {sink : Option Sink} {settings : QuotaSettings}
    {operations : List (Lookups × Operation)} {table : String} {e : Entity}
    (h : ((start localNode sink settings).run operations).entity? table = some e) :
  Scalar.usable e.snapshot.overall = true
  := by
  apply (settled_run operations _ h).usable
  intro table e he
  rw [entity?_start] at he
  cases he

end Manager

/-- After every run of a manager, whatever it was told about the stored quotas, and after every run
of a manager with a store, a tracked table has at least one node, and its rate is the share of its
snapshot or differs from it by no more than is tolerated, unless nothing is left of the share. -/
theorem rate_eq_share_or_close (localNode : String) (sink : Option Sink) (settings : QuotaSettings)
    {m : Manager}
    (hm : (∃ operations, m = (Manager.start localNode sink settings).run operations) ∨
      ∃ store actions, m = (Service.run ⟨Manager.start localNode sink settings, store⟩
        actions).manager)
    {table : String} {s : Snapshot} {rate : Float} (hs : m.snapshot? table = some s)
    (hrate : m.rate? table = some rate) :
  1 ≤ s.nodes ∧ ((s.share == 0.0) = false →
    rate = s.share ∨ ¬ settings.epsilon < (s.share - rate).abs)
  := by
  obtain ⟨operations, rfl⟩ : ∃ operations,
      m = (Manager.start localNode sink settings).run operations := by
    obtain h | ⟨store, actions, rfl⟩ := hm
    · apply h
    · apply Service.manager_run
  obtain ⟨e, he, rfl⟩ := Option.map_eq_some_iff.mp hs
  rw [Manager.rate?, he] at hrate
  cases hrate
  have hsettled := Manager.settled_run operations (fun table e h => by
    rw [Manager.entity?_start] at h
    cases h) he
  use e.snapshot.one_le_nodes, hsettled.close

/-- Three changes of a quota, each too small to be applied: the rate is still the one that was
registered, and the inputs of the share are the last ones. -/
theorem rate_close_after_small_changes :
  let node := Manager.start "n1" none QuotaSettings.default
  let states : NodeStates := .ofPairs [("n1", .online), ("n2", .online), ("n3", .offline)]
  let view (version : UInt64) : View := ⟨version, .ofPairs [("t_OFFLINE", states)]⟩
  let quota (rate : String) : Option Quota := some ⟨some rate⟩
  let actions : List Action :=
    [.write "t_OFFLINE" (quota "100"),
      .perform (.init 0 ⟨"t_OFFLINE", quota "100"⟩ (some (view 1))),
      .write "t_OFFLINE" (quota "100.0008"), .perform (.process 1 (some (view 2))),
      .write "t_OFFLINE" (quota "100.0016"), .perform (.process 2 (some (view 1))),
      .write "t_OFFLINE" (quota "100.0019"), .perform (.process 3 (some (view 3)))]
  let m := (Service.run ⟨node, Store.empty⟩ actions).manager
  m.snapshot? "t_OFFLINE" = some ⟨2, 100.0019, 3, by decide⟩ ∧ m.rate? "t_OFFLINE" = some 50.0 ∧
    1 ≤ (2 : Nat) ∧ (share (100.0019 : Float) 2 == 0.0) = false ∧
    ((50.0 : Float) = share 100.0019 2 ∨
      ¬ QuotaSettings.default.epsilon < (share 100.0019 2 - 50.0).abs)
  := by
  intro node states view quota actions m
  have hs : m.snapshot? "t_OFFLINE" = some ⟨2, 100.0019, 3, by decide⟩ := by decide +kernel
  have hrate : m.rate? "t_OFFLINE" = some 50.0 := by decide +kernel
  have hne : (share (100.0019 : Float) 2 == 0.0) = false := by decide +kernel
  have h := rate_eq_share_or_close "n1" none QuotaSettings.default
    (.inr ⟨Store.empty, actions, rfl⟩) hs hrate
  exact ⟨hs, hrate, h.1, hne, h.2 hne⟩

end QuotaShare
