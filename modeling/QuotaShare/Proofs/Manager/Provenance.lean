import Mathlib.Data.List.Induction
import QuotaShare.Proofs.Manager.Versions

/-!
# Provenance of overall rates

The version of a tracked table is that of the stored quota, and a pass relies on it: as long as the
version is the stored one, the quota is not read again.  A registration takes the version from the
store but the rate from the configuration that it is given, so the two belong together only if the
configuration is the stored one.  A table with the stored version therefore has either the rate of
the stored quota, or the rate of a configuration that it was registered with while that quota was
stored.
-/

namespace QuotaShare

namespace Service

/-- Whether one of the actions registered a table with a configuration of the given overall rate,
while the given quota was stored for the table. -/
def RegisteredOver (s : Service) (actions : List Action) (table : String) (r : StoredQuota)
    (overall : Float) : Prop :=
  ∃ before now config view later,
    actions = before ++ .perform (.init now config (some view)) :: later ∧
      config.table = table ∧ config.rate? = some overall ∧
      (s.run before).store.records[table]? = some r

variable {s : Service} {actions : List Action} {table : String} {r : StoredQuota} {overall : Float}

theorem RegisteredOver.concat (h : s.RegisteredOver actions table r overall) (action : Action) :
  s.RegisteredOver (actions ++ [action]) table r overall
  := by
  obtain ⟨before, now, config, view, later, rfl, h⟩ := h
  use before, now, config, view, later ++ [action]
  rw [List.append_assoc, List.cons_append]
  exact ⟨rfl, h⟩

theorem run_concat (s : Service) (actions : List Action) (action : Action) :
  s.run (actions ++ [action]) = (s.run actions).step action
  := List.foldl_append ..

/-- The version of the next write counts the writes. -/
theorem toNat_next_run (s : Service) {actions : List Action}
    (hwrites : s.store.next.toNat + actions.countP Action.isWrite < 18446744073709551616) :
  (s.run actions).store.next.toNat = s.store.next.toNat + actions.countP Action.isWrite
  := by
  induction actions generalizing s with
  | nil => rfl
  | cons action later ih =>
      rw [List.countP_cons] at hwrites ⊢
      cases action with
      | write table quota =>
          simp only [Action.isWrite, if_true] at hwrites ⊢
          have hnext := s.toNat_next_write table quota (by omega)
          have h := ih (s.step (.write table quota)) (by omega)
          change ((s.step (.write table quota)).run later).store.next.toNat = _
          omega
      | delete table => apply ih (s.step (.delete table)) hwrites
      | perform operation => apply ih (s.step (.perform operation)) hwrites

/-- After a run in which versions do not repeat, a tracked table with the version of the stored
quota has the rate of that quota, or was registered with its rate over that quota. -/
theorem dated_run (hs : s.Dated fun _ r overall => r.rate? = some overall)
    (hwrites : s.store.next.toNat + actions.countP Action.isWrite < 18446744073709551616) :
  (s.run actions).Dated fun table r overall =>
    r.rate? = some overall ∨ s.RegisteredOver actions table r overall
  := by
  -- By induction from the end, since registrations are told apart by what happened before them.
  induction actions using List.reverseRecOn with
  | nil => apply hs.mono fun _ _ _ => Or.inl
  | append_singleton actions action ih =>
      rw [List.countP_append] at hwrites
      have hearlier : s.store.next.toNat + actions.countP Action.isWrite <
          18446744073709551616 := by omega
      have hnext := s.toNat_next_run hearlier
      have hactions := (ih hearlier).mono fun table r overall h =>
        h.imp_right fun h => RegisteredOver.concat h action
      rw [run_concat]
      cases action with
      | write table quota =>
          rw [List.countP_singleton, Action.isWrite, if_pos rfl] at hwrites
          apply dated_write hactions table quota
          omega
      | delete table => apply dated_delete hactions
      | perform operation =>
          apply dated_perform hactions fun _ _ _ => Or.inl
          rintro now config view r overall rfl hr hrate
          right
          use actions, now, config, view, [], rfl, rfl, hrate, hr

end Service

/-- After every run of a manager with a store, in which no two writes have the same version, a
tracked table with the version of the stored quota has the overall rate of that quota, or was
registered with a configuration of another rate while that very quota was stored. -/
theorem overall_eq_stored_or_registered_over (localNode : String) (sink : Option Sink)
    (settings : QuotaSettings) {actions : List Action}
    (hwrites : actions.countP Action.isWrite < 18446744073709551616) {s : Service}
    (hrun : Service.run ⟨Manager.start localNode sink settings, Store.empty⟩ actions = s)
    {table : String} {snapshot : Snapshot} (h : s.manager.snapshot? table = some snapshot)
    (hversion : s.store.version? table = some snapshot.version) :
  (s.store.quota? table).bind Quota.rate? = some snapshot.overall ∨
    ∃ before now config view later,
      actions = before ++ .perform (.init now config (some view)) :: later ∧
        config.table = table ∧ config.rate? = some snapshot.overall ∧
        config.rate? ≠ (s.store.quota? table).bind Quota.rate? ∧
        (Service.run ⟨Manager.start localNode sink settings, Store.empty⟩
          before).store.records[table]? = s.store.records[table]?
  := by
  have hdated : s.Dated fun table r overall => r.rate? = some overall ∨
      Service.RegisteredOver ⟨Manager.start localNode sink settings, Store.empty⟩ actions table r
        overall := by
    rw [← hrun]
    apply Service.dated_run (Service.dated_start localNode sink settings)
    change 0 + _ < _
    omega
  obtain ⟨e, he, rfl⟩ := Option.map_eq_some_iff.mp h
  obtain ⟨r, hr, hversion⟩ := Option.map_eq_some_iff.mp hversion
  have hquota : (s.store.quota? table).bind Quota.rate? = r.rate? := by
    rw [Store.quota?, hr]
    rfl
  rw [hquota, hr]
  by_cases hrate : r.rate? = some e.snapshot.overall
  · left
    apply hrate
  · right
    obtain ⟨before, now, config, view, later, hactions, htable, hconfig, hrecord⟩ :=
      (hdated.known table e r he hr hversion).resolve_left hrate
    use before, now, config, view, later, hactions, htable, hconfig, ?_, hrecord
    rw [hconfig]
    apply Ne.symm hrate

/-- A table that is registered with its quota from before the last write, after that write. -/
theorem registered_over_of_stale_quota :
  let node := Manager.start "n1" none QuotaSettings.default
  let view : View := ⟨1, .ofPairs [("t_OFFLINE", .ofPairs [("n1", .online), ("n2", .online)])]⟩
  let quota (rate : String) : Option Quota := some ⟨some rate⟩
  let actions : List Action :=
    [.write "t_OFFLINE" (quota "100"), .write "t_OFFLINE" (quota "60"),
      .perform (.init 0 ⟨"t_OFFLINE", quota "100"⟩ (some view)), .perform (.acquire 1 "t")]
  let s := Service.run ⟨node, Store.empty⟩ actions
  actions.countP Action.isWrite < 18446744073709551616 ∧
    s.manager.snapshot? "t_OFFLINE" = some ⟨2, 100.0, 1, by decide⟩ ∧
    s.store.version? "t_OFFLINE" = some 1 ∧
    ∃ before now config view later,
      actions = before ++ .perform (.init now config (some view)) :: later ∧
        config.table = "t_OFFLINE" ∧ config.rate? = some 100.0 ∧
        config.rate? ≠ (s.store.quota? "t_OFFLINE").bind Quota.rate? ∧
        (Service.run ⟨node, Store.empty⟩ before).store.records["t_OFFLINE"]? =
          s.store.records["t_OFFLINE"]?
  := by
  intro node view quota actions s
  have hwrites : actions.countP Action.isWrite < 18446744073709551616 := by decide
  have hsnapshot : s.manager.snapshot? "t_OFFLINE" = some ⟨2, 100.0, 1, by decide⟩ := by
    decide +kernel
  have hversion : s.store.version? "t_OFFLINE" = some 1 := by decide +kernel
  have hstored : (s.store.quota? "t_OFFLINE").bind Quota.rate? ≠ some 100.0 := by decide +kernel
  exact ⟨hwrites, hsnapshot, hversion, (overall_eq_stored_or_registered_over "n1" none
    QuotaSettings.default hwrites rfl hsnapshot hversion).resolve_left hstored⟩

/-- A table that is registered with a quota that is not stored any more keeps its rate in the passes
that follow, although it has the version of the stored quota. -/
theorem overall_ne_stored_after_passes :
  let node := Manager.start "n1" none QuotaSettings.default
  let view (version : UInt64) (n2 : NodeState) : View :=
    ⟨version, .ofPairs [("t_OFFLINE", .ofPairs [("n1", .online), ("n2", n2)])]⟩
  let quota (rate : String) : Option Quota := some ⟨some rate⟩
  let actions : List Action :=
    [.write "t_OFFLINE" (quota "100"), .write "t_OFFLINE" (quota "60"),
      .perform (.init 0 ⟨"t_OFFLINE", quota "100"⟩ (some (view 1 .online))),
      .perform (.process 1 (some (view 2 .online))), .perform (.process 2 (some (view 3 .offline)))]
  let s := Service.run ⟨node, Store.empty⟩ actions
  actions.countP Action.isWrite < 18446744073709551616 ∧
    s.manager.snapshot? "t_OFFLINE" = some ⟨1, 100.0, 1, by decide⟩ ∧
    s.store.version? "t_OFFLINE" = some 1 ∧
    (s.store.quota? "t_OFFLINE").bind Quota.rate? = some 60.0 ∧ (60.0 : Float) ≠ 100.0
  := by
  decide +kernel

end QuotaShare
