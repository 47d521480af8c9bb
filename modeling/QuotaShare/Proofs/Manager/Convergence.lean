import QuotaShare.Proofs.Manager.Versions

/-!
# Convergence of snapshots

A pass reads the quota of a table again only when the version of the quota is new.  It nevertheless
ends with the snapshots that would be taken if every table that is tracked on were registered anew:
no two writes have the same version, so a remembered version tells which quota the rate was read
from, whatever was written, deleted, registered and dropped before.
-/

namespace QuotaShare

/-- Whether the version and the rate of a snapshot are those of a stored quota. -/
structure Snapshot.ReadFrom (s : Snapshot) (r : StoredQuota) : Prop where
  version : r.version = s.version
  rate : r.quota.bind Quota.rate? = some s.overall

/-- Whether a table that is registered is registered with the configuration that a store holds for
it. -/
def Action.registersStored (store : Store) : Action → Bool
  | .perform (.init _ config _) => store.config? config.table = some config
  | _ => true

namespace Service

/-- Whether each table is registered with the configuration that the store holds for it at that
moment. -/
def registersStored (s : Service) : List Action → Bool
  | [] => true
  | action :: later => action.registersStored s.store && (s.step action).registersStored later

/-- Whether the versions of the stored and the tracked tables are those of earlier writes, and a
tracked table with the version of the stored quota has its rate. -/
abbrev Consistent (s : Service) : Prop :=
  s.Dated fun _ r overall => r.rate? = some overall

/-! ### Operations of the manager -/

/-- A table that is tracked on after a pass has the stored version and rate, and the nodes of the
view, whether its quota was read again or not. -/
theorem readFrom_reconsider {s : Service} (hs : s.Consistent) {view : View} {now : Nat}
    {table : String} {e e' : Entity} (he : s.manager.entity? table = some e)
    (h : (s.manager.reconsider s.store.lookups view now table e).value.entity? = some e') :
  ∃ r, s.store.records[table]? = some r ∧ e'.snapshot.ReadFrom r ∧
    e'.snapshot.nodes = view.onlineCount table s.manager.localNode
  := by
  obtain ⟨r, hr, hversion, hrate⟩ := known_reconsider hs (fun _ _ _ hrate => hrate) he h
  use r, hr, ⟨hversion, hrate⟩, s.manager.nodes_reconsider h

/-- Every operation of the manager keeps the service consistent, if it registers tables with their
stored configurations. -/
theorem consistent_perform {s : Service} (hs : s.Consistent) {operation : Operation}
    (hstored : Action.registersStored s.store (.perform operation) = true) :
  (s.step (.perform operation)).Consistent
  := by
  apply dated_perform hs fun _ _ _ hrate => hrate
  rintro now config view r overall rfl hr hrate
  -- The configuration is the stored one, and so is its rate.
  obtain ⟨r', hr', hconfig⟩ := Option.map_eq_some_iff.mp (of_decide_eq_true hstored)
  cases hr.symm.trans hr'
  rw [← hconfig] at hrate
  apply hrate

/-! ### Runs -/

/-- A service stays consistent as long as the versions of its writes do not repeat. -/
theorem consistent_run {s : Service} (hs : s.Consistent) {actions : List Action}
    (hwrites : s.store.next.toNat + actions.countP Action.isWrite < 18446744073709551616)
    (hstored : s.registersStored actions = true) :
  (s.run actions).Consistent
  := by
  induction actions generalizing s with
  | nil => apply hs
  | cons action later ih =>
      obtain ⟨haction, hlater⟩ := Bool.and_eq_true_iff.mp hstored
      rw [List.countP_cons] at hwrites
      cases action with
      | write table quota =>
          simp only [Action.isWrite, if_true] at hwrites
          apply ih (dated_write hs table quota (by omega)) _ hlater
          rw [s.toNat_next_write table quota (by omega)]
          omega
      | delete table => apply ih (dated_delete hs table) hwrites hlater
      | perform operation => apply ih (consistent_perform hs haction) hwrites hlater

/-- What is tracked after a pass has the version and the rate of a stored quota, and the nodes of
the view. -/
theorem readFrom_process {s : Service} (hs : s.Consistent) {now : Nat} {view : View} {m : Manager}
    {report : Report}
    (hpass : (s.manager.process s.store.lookups now (some view)).value = (m, .processed report))
    {table : String} {snapshot : Snapshot} (h : m.snapshot? table = some snapshot) :
  ∃ r, s.store.records[table]? = some r ∧ snapshot.ReadFrom r ∧
    snapshot.nodes = view.onlineCount table s.manager.localNode
  := by
  rw [Manager.value_process] at hpass
  simp only at hpass
  split at hpass
  · cases hpass
  · cases hpass
    obtain ⟨e', he', rfl⟩ := Option.map_eq_some_iff.mp h
    rw [Manager.entity?_passed] at he'
    obtain ⟨e, he, hverdict⟩ := Option.bind_eq_some_iff.mp he'
    apply readFrom_reconsider hs he hverdict

end Service

/-- Registering a table anew with its stored quota takes the snapshot that has the version and the
rate of the quota, and the nodes of the view. -/
theorem Manager.snapshot?_init {m : Manager} {store : Store} {table : String} {r : StoredQuota}
    (hr : store.records[table]? = some r) {view : View} {snapshot : Snapshot}
    (hread : snapshot.ReadFrom r) (hnodes : snapshot.nodes = view.onlineCount table m.localNode)
    (now : Nat) :
  (m.init store.lookups now ⟨table, r.quota⟩ (some view)).value.1.snapshot? table = some snapshot
  := by
  have hversion : store.lookups.version table = .ok (some snapshot.version) := by
    rw [← hread.version]
    apply congrArg Except.ok
    apply Option.map_eq_some_iff.mpr
    use r, hr
  have hregister : (m.register? store.lookups ⟨table, r.quota⟩ (some view)).value =
      some snapshot := by
    apply m.value_register?_eq_some_iff.mpr
    use view, rfl, hnodes, hread.rate
  rw [snapshot?, entity?_init, if_pos rfl, hregister]
  rfl

/-- After every run of a manager with a store, in which no two writes have the same version and
tables are registered with their stored configurations, a pass leaves each table that is tracked on
with the snapshot that is taken when the table is registered anew: with the nodes of the view, and
the rate and the version of the quota that is stored now. -/
theorem snapshot_eq_fresh (localNode : String) (sink : Option Sink) (settings : QuotaSettings)
    {actions : List Action} (hwrites : actions.countP Action.isWrite < 18446744073709551616)
    (hstored : Service.registersStored ⟨Manager.start localNode sink settings, Store.empty⟩
      actions = true)
    {s : Service}
    (hrun : Service.run ⟨Manager.start localNode sink settings, Store.empty⟩ actions = s)
    {now : Nat} {view : View} {m : Manager} {report : Report}
    (hpass : (s.manager.process s.store.lookups now (some view)).value = (m, .processed report))
    {table : String} {snapshot : Snapshot} (h : m.snapshot? table = some snapshot) :
  ∃ config, s.store.config? table = some config ∧
    ((Manager.start localNode sink settings).init s.store.lookups now config
      (some view)).value.1.snapshot? table = some snapshot ∧
    snapshot.nodes = view.onlineCount table localNode ∧
    config.rate? = some snapshot.overall ∧
    s.store.version? table = some snapshot.version
  := by
  have hconsistent : s.Consistent := by
    rw [← hrun]
    apply Service.consistent_run (Service.dated_start localNode sink settings) _ hstored
    change 0 + _ < _
    omega
  have hnode : s.manager.localNode = localNode := by
    obtain ⟨operations, hmanager⟩ :=
      Service.manager_run ⟨Manager.start localNode sink settings, Store.empty⟩ actions
    rw [← hrun, hmanager, (Manager.fixed_run _ operations).1]
    rfl
  obtain ⟨r, hr, hread, hnodes⟩ := Service.readFrom_process hconsistent hpass h
  rw [hnode] at hnodes
  use ⟨table, r.quota⟩
  refine ⟨?_, Manager.snapshot?_init hr hread hnodes now, hnodes, hread.rate, ?_⟩
  · rw [Store.config?, hr]
    rfl
  · rw [Store.version?, hr, ← hread.version]
    rfl

/-- A table that is deleted and written again with another quota, and is looked at in passes before
and after, the last of them against an earlier view. -/
theorem snapshot_eq_fresh_after_rewriting :
  let node := Manager.start "n1" none QuotaSettings.default
  let view (version : UInt64) (n2 : NodeState) : View :=
    ⟨version, .ofPairs [("t_REALTIME", .ofPairs [("n1", .online), ("n2", n2)])]⟩
  let quota (rate : String) : Option Quota := some ⟨some rate⟩
  let actions : List Action :=
    [.write "t_REALTIME" (quota "100"),
      .perform (.init 0 ⟨"t_REALTIME", quota "100"⟩ (some (view 1 .online))),
      .perform (.acquire 1 "t"), .delete "t_REALTIME", .write "t_REALTIME" (quota "60"),
      .perform (.process 2 (some (view 2 .offline))), .write "t_REALTIME" (quota "80")]
  let s := Service.run ⟨node, Store.empty⟩ actions
  let pass := (s.manager.process s.store.lookups 3 (some (view 1 .online))).value
  actions.countP Action.isWrite < 18446744073709551616 ∧
    Service.registersStored ⟨node, Store.empty⟩ actions = true ∧
    pass.2 = .processed ⟨1, 1, 0, 1⟩ ∧
    pass.1.snapshot? "t_REALTIME" = some ⟨2, 80.0, 2, by decide⟩ ∧
    ∃ config, s.store.config? "t_REALTIME" = some config ∧
      (node.init s.store.lookups 3 config
        (some (view 1 .online))).value.1.snapshot? "t_REALTIME" = some ⟨2, 80.0, 2, by decide⟩ ∧
      2 = (view 1 .online).onlineCount "t_REALTIME" "n1" ∧ config.rate? = some 80.0 ∧
      s.store.version? "t_REALTIME" = some 2
  := by
  intro node view quota actions s pass
  have hwrites : actions.countP Action.isWrite < 18446744073709551616 := by decide
  have hstored : Service.registersStored ⟨node, Store.empty⟩ actions = true := by
    decide +kernel
  have hpass : pass.2 = .processed ⟨1, 1, 0, 1⟩ := by decide +kernel
  have hsnapshot : pass.1.snapshot? "t_REALTIME" = some ⟨2, 80.0, 2, by decide⟩ := by
    decide +kernel
  exact ⟨hwrites, hstored, hpass, hsnapshot, snapshot_eq_fresh "n1" none QuotaSettings.default
    hwrites hstored rfl (Prod.ext rfl hpass) hsnapshot⟩

end QuotaShare
