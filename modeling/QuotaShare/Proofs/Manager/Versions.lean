import QuotaShare.Proofs.Manager.Run

/-!
# Versions of quotas

No two writes to a store have the same version, so a tracked table with the version of the stored
quota goes back to the very write that stored it.  What is known of the overall rate of such a table
stays known when quotas are written and deleted, and in a pass, which reads the quota again when the
version is new; only a registration can bring in another rate.
-/

namespace QuotaShare

/-- Whether something that happens is a write to the store. -/
def Action.isWrite : Action → Bool
  | .write .. => true
  | _ => false

/-- The rate that a stored quota stands for. -/
def StoredQuota.rate? (r : StoredQuota) : Option Float :=
  r.quota.bind Quota.rate?

namespace Service

/-- Whether the versions of the stored and the tracked tables are those of earlier writes, and
`Known` holds of the overall rate of each tracked table that has the version of the stored quota. -/
structure Dated (Known : String → StoredQuota → Float → Prop) (s : Service) : Prop where
  stored : ∀ (table : String) (r : StoredQuota), s.store.records[table]? = some r →
    r.version < s.store.next
  tracked : ∀ (table : String) (e : Entity), s.manager.entity? table = some e →
    e.snapshot.version < s.store.next
  known : ∀ (table : String) (e : Entity) (r : StoredQuota), s.manager.entity? table = some e →
    s.store.records[table]? = some r → r.version = e.snapshot.version →
    Known table r e.snapshot.overall

variable {Known Known' : String → StoredQuota → Float → Prop} {s : Service}

theorem Dated.mono (hs : s.Dated Known)
    (h : ∀ table r overall, Known table r overall → Known' table r overall) :
  s.Dated Known'
  := by
  constructor
  · apply hs.stored
  · apply hs.tracked
  · intro table e r he hr hversion
    apply h table r _ (hs.known table e r he hr hversion)

/-- A service without tables has no versions. -/
theorem dated_start (localNode : String) (sink : Option Sink) (settings : QuotaSettings) :
  Dated Known ⟨Manager.start localNode sink settings, Store.empty⟩
  := by
  have hrecords (table : String) : Store.empty.records[table]? = none :=
    Std.ExtTreeMap.getElem?_empty
  constructor
  · intro table r hr
    cases (hrecords table).symm.trans hr
  · intro table e he
    rw [Manager.entity?_start] at he
    cases he
  · intro table e r he
    rw [Manager.entity?_start] at he
    cases he

/-! ### Writes and deletions -/

theorem toNat_next_write (s : Service) (table : String) (quota : Option Quota)
    (hnext : s.store.next.toNat + 1 < 18446744073709551616) :
  (s.step (.write table quota)).store.next.toNat = s.store.next.toNat + 1
  := by
  change (s.store.next + 1).toNat = _
  rw [UInt64.toNat_add]
  change (_ + 1) % _ = _
  omega

theorem dated_write (hs : s.Dated Known) (table : String) (quota : Option Quota)
    (hnext : s.store.next.toNat + 1 < 18446744073709551616) :
  (s.step (.write table quota)).Dated Known
  := by
  have hlt : s.store.next < (s.step (.write table quota)).store.next := by
    rw [UInt64.lt_iff_toNat_lt, s.toNat_next_write table quota hnext]
    apply Nat.lt_succ_self
  have hrecords (other : String) : (s.step (.write table quota)).store.records[other]? =
      if table = other then some ⟨quota, s.store.next⟩ else s.store.records[other]? :=
    ByName.getElem?_insert ..
  constructor
  · intro other r hr
    rw [hrecords] at hr
    split at hr
    · cases hr
      apply hlt
    · apply UInt64.lt_trans (hs.stored other r hr) hlt
  · intro other e he
    apply UInt64.lt_trans (hs.tracked other e he) hlt
  · intro other e r he hr hversion
    rw [hrecords] at hr
    split at hr
    · -- The version of the write is new, so no tracked table has it.
      cases hr
      have htracked := hs.tracked other e he
      rw [← hversion] at htracked
      cases UInt64.lt_irrefl _ htracked
    · apply hs.known other e r he hr hversion

theorem dated_delete (hs : s.Dated Known) (table : String) :
  (s.step (.delete table)).Dated Known
  := by
  have hrecords (other : String) (r : StoredQuota)
      (hr : (s.step (.delete table)).store.records[other]? = some r) :
      s.store.records[other]? = some r := by
    have h := (ByName.getElem?_erase s.store.records table other).symm.trans hr
    split at h
    · cases h
    · apply h
  constructor
  · intro other r hr
    apply hs.stored other r (hrecords other r hr)
  · apply hs.tracked
  · intro other e r he hr
    apply hs.known other e r he (hrecords other r hr)

/-! ### Operations of the manager -/

/-- A table is registered with a view, with the version of its stored quota, and with the rate of the
given configuration. -/
theorem exists_of_register? {config : TableConfig} {view : Option View} {snapshot : Snapshot}
    (h : (s.manager.register? s.store.lookups config view).value = some snapshot) :
  ∃ against r, view = some against ∧ s.store.records[config.table]? = some r ∧
    r.version = snapshot.version ∧ config.rate? = some snapshot.overall
  := by
  obtain ⟨against, hview, _, hrate, hversion⟩ := s.manager.value_register?_eq_some_iff.mp h
  obtain ⟨r, hr, hversion⟩ := Option.map_eq_some_iff.mp (Except.ok.inj hversion)
  exact ⟨against, r, hview, hr, hversion, hrate⟩

/-- A table that is tracked on after a pass has the version of its stored quota, and what is known of
the rate that was remembered or read again is known of its rate. -/
theorem known_reconsider (hs : s.Dated Known)
    (hread : ∀ table r overall, r.rate? = some overall → Known table r overall) {view : View}
    {now : Nat} {table : String} {e e' : Entity} (he : s.manager.entity? table = some e)
    (h : (s.manager.reconsider s.store.lookups view now table e).value.entity? = some e') :
  ∃ r, s.store.records[table]? = some r ∧ r.version = e'.snapshot.version ∧
    Known table r e'.snapshot.overall
  := by
  rw [Manager.entity?_reconsider] at h
  obtain ⟨latest, hlatest, h⟩ := Option.bind_eq_some_iff.mp h
  obtain ⟨version, overall, hversion, hoverall, rfl⟩ := s.manager.exists_of_latest? hlatest
  obtain ⟨r, hr, rfl⟩ := Option.map_eq_some_iff.mp hversion
  refine ⟨r, hr, ?_⟩
  obtain hsnapshot | ⟨_, hversion, hsnapshot⟩ := s.manager.snapshot_adopt h
  · rw [hsnapshot]
    constructor
    · rfl
    · rw [Manager.value_overallAt] at hoverall
      split at hoverall
      · -- A quota that is not read again has the remembered version.
        rename_i hversion
        cases hoverall
        apply hs.known table e r he hr hversion
      · apply hread
        change (s.store.records[table]?.bind StoredQuota.quota).bind Quota.rate? = _ at hoverall
        rw [hr] at hoverall
        apply hoverall
  · rw [hsnapshot]
    exact ⟨hversion, hs.known table e r he hr hversion⟩

/-- What is known of rates that are read, and of the rate that an operation registers, is known after
the operation. -/
theorem dated_perform (hs : s.Dated Known)
    (hread : ∀ table r overall, r.rate? = some overall → Known table r overall)
    {operation : Operation}
    (hinit : ∀ now config view r overall, operation = .init now config (some view) →
      s.store.records[config.table]? = some r → config.rate? = some overall →
      Known config.table r overall) :
  (s.step (.perform operation)).Dated Known
  := by
  have hknown (table : String) (e' : Entity)
      (h : (s.manager.perform s.store.lookups operation).entity? table = some e') :
      (∃ e, s.manager.entity? table = some e ∧ e'.snapshot = e.snapshot) ∨
        ∃ r, s.store.records[table]? = some r ∧ r.version = e'.snapshot.version ∧
          Known table r e'.snapshot.overall := by
    obtain ⟨now, config, view, snapshot, hoperation, rfl, hregister, rfl⟩ |
      ⟨e, now, k, he, rfl, _⟩ | ⟨now, view, e, _, _, he, hverdict⟩ := Manager.entity?_perform h
    · right
      obtain ⟨view, r, rfl, hr, hversion, hrate⟩ := exists_of_register? hregister
      exact ⟨r, hr, hversion, hinit now config view r _ hoperation hr hrate⟩
    · left
      exact ⟨e, he, e.snapshot_charge now k⟩
    · right
      apply known_reconsider hs hread he hverdict
  constructor
  · apply hs.stored
  · intro table e' he'
    obtain ⟨e, he, hsnapshot⟩ | ⟨r, hr, hversion, _⟩ := hknown table e' he'
    · rw [hsnapshot]
      apply hs.tracked table e he
    · rw [← hversion]
      apply hs.stored table r hr
  · intro table e' r he' hr hversion
    obtain ⟨e, he, hsnapshot⟩ | ⟨r', hr', _, hknown⟩ := hknown table e' he'
    · rw [hsnapshot] at hversion ⊢
      apply hs.known table e r he hr hversion
    · cases hr.symm.trans hr'
      apply hknown

end Service

end QuotaShare
