import QuotaShare.Proofs.Float.Underflow
import QuotaShare.Proofs.Manager.Rate

/-!
# Rates that limiters are asked to run at

A limiter runs at the share of a table's rate, at first and whenever it is changed, and every share
that it is asked to run at is that of a snapshot that is kept for the table afterwards.  The events tell
what is asked for: exactly the rates with which limiters are made and to which they are set.  So all
these rates are usable as long as something is left of every share.  Nothing is left of the share of
a rate that is too small for the number of nodes: a limiter is then made with a rate of zero, or
keeps its old rate because the new one is ignored.
-/

namespace QuotaShare

/-! ### Rates in events -/

/-- The rate that a limiter is asked to run at when an event is reported. -/
def Event.asked? : Event → Option Float
  | initialized _ _ share _ _ => some share
  | rateChanged _ _ _ share _ => some share
  | _ => none

/-- The rates that limiters are asked to run at on the way to a value. -/
def Traced.asked {α : Type} (x : Traced α) : List Float :=
  x.events.filterMap Event.asked?

namespace Traced

variable {α β : Type}

@[simp]
theorem asked_pure (a : α) :
  (pure a : Traced α).asked = []
  := rfl

@[simp]
theorem asked_bind (x : Traced α) (f : α → Traced β) :
  (x >>= f).asked = x.asked ++ (f x.value).asked
  := List.filterMap_append

@[simp]
theorem asked_map (f : α → β) (x : Traced α) :
  (f <$> x).asked = x.asked
  := by
  rw [asked, events_map]
  rfl

@[simp]
theorem asked_report (e : Event) :
  (report e).asked = e.asked?.toList
  := by
  rw [asked, events_report]
  cases h : e.asked? with
  | none => rw [List.filterMap_cons_none h]; rfl
  | some rate => rw [List.filterMap_cons_some h]; rfl

/-- What is asked for in a fold, if each step asks for the same whatever was done before. -/
theorem asked_foldlM {f : β → α → Traced β} {g : α → List Float}
    (h : ∀ b a, (f b a).asked = g a) (b : β) (l : List α) :
  (l.foldlM f b).asked = l.flatMap g
  := by
  induction l generalizing b with
  | nil => rfl
  | cons a l ih => rw [List.foldlM_cons, asked_bind, ih, h, List.flatMap_cons]

end Traced

namespace Manager

/-! ### What operations ask for -/

theorem asked_storedVersion (lookups : Lookups) (table : String) :
  (storedVersion lookups table).asked = []
  := by
  rw [storedVersion]
  cases lookups.version table with
  | ok version => rfl
  | error e => rfl

theorem asked_overallAt (lookups : Lookups) (table : String) (previous : Snapshot)
    (version : UInt64) :
  (overallAt lookups table previous version).asked = []
  := by
  rw [overallAt, storedRate]
  split
  · rfl
  · cases lookups.quota table with
    | ok quota => rfl
    | error e => rfl

theorem asked_siblingQuota (lookups : Lookups) (sibling : String) :
  (siblingQuota lookups sibling).asked = []
  := by
  rw [siblingQuota]
  cases lookups.quota sibling with
  | ok quota => rfl
  | error e => rfl

theorem asked_compareVariants (lookups : Lookups) (config : TableConfig) :
  (compareVariants lookups config).asked = []
  := by
  rw [compareVariants]
  cases Variant.ofName? config.table with
  | none => rfl
  | some variant =>
      cases config.quota.bind Quota.raw? with
      | none => rfl
      | some own =>
          simp only [Traced.asked_bind, asked_siblingQuota, List.nil_append]
          split
          · split <;> rfl
          · rfl

variable (m : Manager)

theorem asked_latest? (lookups : Lookups) (view : View) (table : String) (previous : Snapshot) :
  (m.latest? lookups view table previous).asked = []
  := by
  rw [latest?]
  cases view.states? table with
  | none => rfl
  | some states =>
      simp only [Traced.asked_bind, asked_storedVersion, List.nil_append]
      cases (storedVersion lookups table).value with
      | none => rfl
      | some version =>
          simp only [Traced.asked_bind, asked_overallAt, List.nil_append]
          cases (overallAt lookups table previous version).value <;> rfl

theorem asked_register? (lookups : Lookups) (config : TableConfig) (view : Option View) :
  (m.register? lookups config view).asked = []
  := by
  unfold register?
  cases config.quota.filter fun q => q.raw?.isSome with
  | none => rfl
  | some quota =>
      cases view with
      | none => rfl
      | some view =>
          simp only [Traced.asked_bind, Traced.asked_report, Event.asked?, Option.toList_none,
            List.nil_append]
          cases quota.rate? with
          | none => rfl
          | some overall =>
              simp only [Traced.asked_bind, asked_storedVersion, List.nil_append]
              cases (storedVersion lookups config.table).value <;> rfl

/-- A registration asks for the share of the snapshot that is registered, if there is one. -/
theorem asked_init (lookups : Lookups) (now : Nat) (config : TableConfig) (view : Option View) :
  (m.init lookups now config view).asked =
    (m.register? lookups config view).value.toList.map Snapshot.share
  := by
  rw [init]
  simp only [Traced.asked_bind, Traced.asked_report, Event.asked?, Option.toList_none,
    asked_compareVariants, asked_register?, List.nil_append]
  cases (m.register? lookups config view).value <;> rfl

/-- An entity that is tracked on either keeps its limiter, and nothing is asked for, or its limiter is
set to the only rate that is asked for, the share of the snapshot that is kept. -/
theorem asked_adopt (now : Nat) (table : String) (e : Entity) (latest : Snapshot) :
  ∃ e', (m.adopt now table e latest).value.entity? = some e' ∧
    ((m.adopt now table e latest).asked = [] ∧ e'.limiter = e.limiter ∨
      (m.adopt now table e latest).asked = [e'.snapshot.share] ∧
        e'.limiter = e.limiter.setRate e'.snapshot.share now)
  := by
  rw [adopt]
  by_cases hsame : latest.nodes = e.snapshot.nodes ∧ (latest.overall == e.snapshot.overall) = true
  · rw [if_pos hsame]
    by_cases hversion : latest.version = e.snapshot.version
    · rw [if_pos hversion]
      exact ⟨e, rfl, .inl ⟨rfl, rfl⟩⟩
    · rw [if_neg hversion]
      exact ⟨_, rfl, .inl ⟨rfl, rfl⟩⟩
  · rw [if_neg hsame]
    by_cases hdiffers : m.differs latest.share e.limiter.rate = true
    · rw [if_pos hdiffers]
      exact ⟨_, rfl, .inr ⟨rfl, rfl⟩⟩
    · rw [if_neg hdiffers]
      exact ⟨_, rfl, .inl ⟨rfl, rfl⟩⟩

/-- The same holds of a pass over an entity that is tracked on. -/
theorem asked_reconsider {lookups : Lookups} {view : View} {now : Nat} {table : String}
    {e e' : Entity} (h : (m.reconsider lookups view now table e).value.entity? = some e') :
  (m.reconsider lookups view now table e).asked = [] ∧ e'.limiter = e.limiter ∨
    (m.reconsider lookups view now table e).asked = [e'.snapshot.share] ∧
      e'.limiter = e.limiter.setRate e'.snapshot.share now
  := by
  rw [entity?_reconsider] at h
  obtain ⟨latest, hlatest, h⟩ := Option.bind_eq_some_iff.mp h
  obtain ⟨e'', he'', hasked⟩ := m.asked_adopt now table e latest
  obtain rfl := Option.some.inj (he''.symm.trans h)
  rw [reconsider, Traced.asked_bind, asked_latest?, List.nil_append, hlatest]
  apply hasked

/-- If anything is asked for, the table is tracked on, and its limiter was set to the rate. -/
theorem exists_of_mem_asked_reconsider {lookups : Lookups} {view : View} {now : Nat} {table : String}
    {e : Entity} {rate : Float} (h : rate ∈ (m.reconsider lookups view now table e).asked) :
  ∃ e', (m.reconsider lookups view now table e).value.entity? = some e' ∧
    e'.snapshot.share = rate ∧ e'.limiter = e.limiter.setRate rate now
  := by
  rw [reconsider, Traced.asked_bind, asked_latest?, List.nil_append] at h
  cases hlatest : (m.latest? lookups view table e.snapshot).value with
  | none =>
      rw [hlatest] at h
      cases h
  | some latest =>
      rw [hlatest] at h
      rw [m.value_reconsider_of_latest? hlatest]
      obtain ⟨e', he', ⟨hasked, _⟩ | ⟨hasked, hlimiter⟩⟩ := m.asked_adopt now table e latest
      · rw [hasked] at h
        cases h
      · rw [hasked] at h
        obtain rfl := List.mem_singleton.mp h
        use e'

/-- A pass asks for what it asks for table by table. -/
theorem asked_sweep (lookups : Lookups) (view : View) (now : Nat)
    (entries : List (String × Entity)) :
  (m.sweep lookups view now entries).asked =
    entries.flatMap fun (table, e) => (m.reconsider lookups view now table e).asked
  := by
  apply Traced.asked_foldlM
  rintro p ⟨table, e⟩
  rw [Traced.asked_bind, Traced.asked_pure, List.append_nil]

theorem asked_process (lookups : Lookups) (now : Nat) (view : View) :
  (m.process lookups now (some view)).asked =
    if m.lastVersion = some view.version then []
    else m.registry.toList.flatMap fun (table, e) => (m.reconsider lookups view now table e).asked
  := by
  rw [process]
  simp only [Traced.asked_bind, Traced.asked_report, Event.asked?, Option.toList_none,
    List.nil_append]
  split
  · rfl
  · rw [Traced.asked_bind, asked_sweep]
    apply List.append_nil

theorem asked_acquireTable (now : Nat) (table : String) :
  (m.acquireTable now table).asked = []
  := by
  rw [acquireTable]
  cases m.entity? table with
  | none => rfl
  | some e =>
      simp only
      split <;> rfl

theorem asked_acquire (now : Nat) (name : String) :
  (m.acquire now name).asked = []
  := by
  rw [acquire, acquireAll, Traced.asked_foldlM (g := fun _ => [])]
  · rw [List.flatMap_eq_nil_iff]
    intro _ _
    rfl
  · intro a table
    rw [Traced.asked_bind, asked_acquireTable]
    rfl

/-! ### Operations -/

/-- The manager after an operation, with the events that are reported. -/
def operate (lookups : Lookups) : Operation → Traced Manager
  | .init now config view => Prod.fst <$> m.init lookups now config view
  | .drop table => m.drop table
  | .clear => pure m.clear
  | .acquire now name => Admission.manager <$> m.acquire now name
  | .process now view => Prod.fst <$> m.process lookups now view

/-- An operation does the same when its events are reported. -/
theorem value_operate (lookups : Lookups) (operation : Operation) :
  (m.operate lookups operation).value = m.perform lookups operation
  := by
  cases operation <;> rfl

/-- Whether a limiter is made with a rate, or is the limiter of a table that is set to the rate. -/
inductive MadeOrSet (m : Manager) (table : String) (rate : Float) : Limiter Float → Prop where
  | made (now : Nat) : m.MadeOrSet table rate (Limiter.start rate m.settings.burst now)
  | set {e : Entity} (he : m.entity? table = some e) (now : Nat) :
    m.MadeOrSet table rate (e.limiter.setRate rate now)

/-- A limiter runs at the rate that it is made with or set to, if the rate is usable. -/
theorem MadeOrSet.rate_eq {m : Manager} {table : String} {rate : Float} {l : Limiter Float}
    (h : m.MadeOrSet table rate l) (hrate : Scalar.usable rate = true) :
  l.rate = rate
  := by
  cases h with
  | made now => rfl
  | set he now => rw [Limiter.setRate, if_pos hrate]

/-- Whatever an operation asks for, the limiter that a table has after it was made with this rate or
set to it, and the rate is the share of the snapshot that is kept. -/
theorem exists_of_mem_asked_operate {lookups : Lookups} {operation : Operation} {rate : Float}
    (h : rate ∈ (m.operate lookups operation).asked) :
  ∃ table e', (m.operate lookups operation).value.entity? table = some e' ∧
    e'.snapshot.share = rate ∧ m.MadeOrSet table rate e'.limiter
  := by
  rw [value_operate]
  cases operation with
  | init now config view =>
      rw [operate, Traced.asked_map, asked_init] at h
      obtain ⟨s, hs, rfl⟩ := List.mem_map.mp h
      use config.table, Entity.start s m.settings.window m.settings.burst now
      rw [perform, entity?_init, if_pos rfl, Option.mem_toList.mp hs]
      exact ⟨rfl, rfl, .made now⟩
  | drop table => cases h
  | clear => cases h
  | acquire now name =>
      rw [operate, Traced.asked_map, asked_acquire] at h
      cases h
  | process now view =>
      cases view with
      | none => cases h
      | some view =>
          rw [operate, Traced.asked_map, asked_process] at h
          by_cases hversion : m.lastVersion = some view.version
          · rw [if_pos hversion] at h
            cases h
          · rw [if_neg hversion] at h
            obtain ⟨⟨table, e⟩, hlisted, h⟩ := List.mem_flatMap.mp h
            have he : m.entity? table = some e := Registry.mem_toList.mp hlisted
            obtain ⟨e', he', hshare, hlimiter⟩ := m.exists_of_mem_asked_reconsider h
            use table, e'
            rw [perform, value_process]
            simp only [if_neg hversion]
            rw [entity?_passed, he, Option.bind_some, he', hlimiter]
            exact ⟨rfl, hshare, .set he now⟩

/-- A limiter that a table has after an operation was made with a rate or set to it, and this is asked
for, or it is the one that the table had before, and at most charged. -/
theorem asked_or_charged {lookups : Lookups} {operation : Operation} {table : String} {e' : Entity}
    (h : (m.operate lookups operation).value.entity? table = some e') :
  e'.snapshot.share ∈ (m.operate lookups operation).asked ∧
      m.MadeOrSet table e'.snapshot.share e'.limiter ∨
    ∃ e now k, m.entity? table = some e ∧ e'.limiter = (e.charge now k).limiter
  := by
  rw [value_operate] at h
  obtain ⟨now, config, view, s, rfl, _, hs, rfl⟩ | ⟨e, now, k, he, rfl, _⟩ |
    ⟨now, view, e, rfl, hversion, he, hverdict⟩ := entity?_perform h
  · left
    use ?_, .made now
    rw [operate, Traced.asked_map, asked_init, hs]
    apply List.mem_singleton_self
  · right
    use e, now, k, he
  · obtain ⟨_, hlimiter⟩ | ⟨hasked, hlimiter⟩ := m.asked_reconsider hverdict
    · right
      use e, now, 0, he, hlimiter
    · left
      constructor
      · rw [operate, Traced.asked_map, asked_process, if_neg hversion, List.mem_flatMap]
        use (table, e), Registry.mem_toList.mpr he
        simp only [hasked, List.mem_singleton]
      · rw [hlimiter]
        apply MadeOrSet.set he now

/-! ### Rates of limiters -/

/-- The rate of a tracked table after an operation is its share, if this is usable, or the rate that
it had before. -/
theorem rate_operate {m : Manager} {lookups : Lookups} {operation : Operation} {table : String}
    {e' : Entity} (h : (m.operate lookups operation).value.entity? table = some e')
    (hshare : Scalar.usable e'.snapshot.share = true) :
  e'.limiter.rate = e'.snapshot.share ∨
    ∃ e, m.entity? table = some e ∧ e'.limiter.rate = e.limiter.rate
  := by
  obtain ⟨_, hlimiter⟩ | ⟨e, now, k, he, hlimiter⟩ := m.asked_or_charged h
  · left
    apply hlimiter.rate_eq hshare
  · right
    use e, he
    rw [hlimiter, e.rate_charge now k]

/-- A manager before, between and after operations. -/
def states (m : Manager) : List (Lookups × Operation) → List Manager
  | [] => [m]
  | (lookups, operation) :: later => m :: (m.perform lookups operation).states later

/-- The rates that limiters are asked to run at by operations, one after the other. -/
def asked (m : Manager) : List (Lookups × Operation) → List Float
  | [] => []
  | (lookups, operation) :: later =>
    (m.operate lookups operation).asked ++ (m.perform lookups operation).asked later

theorem mem_states_self (m : Manager) (operations : List (Lookups × Operation)) :
  m ∈ m.states operations
  := by
  cases operations with
  | nil => apply List.mem_cons_self
  | cons operation later => apply List.mem_cons_self

theorem exists_of_mem_states {m m' : Manager} {operations : List (Lookups × Operation)}
    (h : m' ∈ m.states operations) :
  ∃ earlier, m' = m.run earlier
  := by
  induction operations generalizing m with
  | nil => exact ⟨[], List.mem_singleton.mp h⟩
  | cons operation later ih =>
      obtain rfl | h := List.mem_cons.mp h
      · exact ⟨[], rfl⟩
      · obtain ⟨earlier, rfl⟩ := ih h
        exact ⟨operation :: earlier, rfl⟩

/-- Whether all rates and shares of the tracked tables are usable. -/
def Usable (m : Manager) : Prop :=
  ∀ table e, m.entity? table = some e →
    Scalar.usable e.limiter.rate = true ∧ Scalar.usable e.snapshot.share = true

/-- Usable rates stay usable as long as the shares are, and nothing else is asked for. -/
theorem usable_run_of_shares {m : Manager} (operations : List (Lookups × Operation)) (hm : m.Usable)
    (hshares : ∀ m' ∈ m.states operations, ∀ table s, m'.snapshot? table = some s →
      Scalar.usable s.share = true) :
  (∀ m' ∈ m.states operations, m'.Usable) ∧
    ∀ rate ∈ m.asked operations, Scalar.usable rate = true
  := by
  induction operations generalizing m with
  | nil =>
      constructor
      · intro m' hm'
        rw [List.mem_singleton.mp hm']
        apply hm
      · nofun
  | cons operation later ih =>
      obtain ⟨lookups, operation⟩ := operation
      have hafter := hshares _ (List.mem_cons_of_mem m (mem_states_self _ later))
      have hperform : (m.perform lookups operation).Usable := by
        intro table e' he'
        have hshare : Scalar.usable e'.snapshot.share = true := by
          apply hafter table
          rw [snapshot?, he']
          rfl
        rw [← value_operate] at he'
        obtain hrate | ⟨e, he, hrate⟩ := rate_operate he' hshare
        · rw [hrate]
          exact ⟨hshare, hshare⟩
        · rw [hrate]
          exact ⟨(hm table e he).1, hshare⟩
      obtain ⟨hstates, hasked⟩ := ih hperform fun m' hm' =>
        hshares m' (List.mem_cons_of_mem m hm')
      constructor
      · intro m' hm'
        obtain rfl | hm' := List.mem_cons.mp hm'
        · apply hm
        · apply hstates m' hm'
      · intro rate hrate
        obtain hrate | hrate := List.mem_append.mp hrate
        · obtain ⟨table, e', he', rfl, _⟩ := m.exists_of_mem_asked_operate hrate
          rw [value_operate] at he'
          apply hafter table
          rw [snapshot?, he']
          rfl
        · apply hasked rate hrate

end Manager

/-- After and between all operations of a manager, whatever it is told about the stored quotas, the
rates and the shares of the tracked tables are finite and positive, and so are all rates that
limiters are asked to run at, exactly if something is left of every share.  Nothing is left of the
share of a rate among fewer than two to the power of 53 nodes exactly if the rate is at most as many
halves of the least positive number as there are nodes. -/
theorem rates_usable_iff (localNode : String) (sink : Option Sink) (settings : QuotaSettings)
    (operations : List (Lookups × Operation)) :
  ((∀ m ∈ (Manager.start localNode sink settings).states operations, m.Usable) ∧
      (∀ rate ∈ (Manager.start localNode sink settings).asked operations,
        Scalar.usable rate = true) ↔
    ∀ m ∈ (Manager.start localNode sink settings).states operations,
      ∀ table s, m.snapshot? table = some s → (s.share == 0.0) = false) ∧
  ∀ m ∈ (Manager.start localNode sink settings).states operations,
    ∀ table s, m.snapshot? table = some s → s.nodes < 2 ^ 53 →
      ((s.share == 0.0) = true ↔ 2 * leastParts s.overall ≤ s.nodes)
  := by
  have husable (m : Manager) (hm : m ∈ (Manager.start localNode sink settings).states operations)
      (table : String) (s : Snapshot) (hs : m.snapshot? table = some s) :
      Scalar.usable s.overall = true := by
    obtain ⟨earlier, rfl⟩ := Manager.exists_of_mem_states hm
    obtain ⟨e, he, rfl⟩ := Option.map_eq_some_iff.mp hs
    apply Manager.usable_run he
  constructor
  · constructor
    · rintro ⟨hstates, _⟩ m hm table s hs
      obtain ⟨e, he, rfl⟩ := Option.map_eq_some_iff.mp hs
      apply beq_zero_of_usable (hstates m hm table e he).2
    · intro hleft
      apply Manager.usable_run_of_shares operations
      · intro table e he
        rw [Manager.entity?_start] at he
        cases he
      · intro m hm table s hs
        apply Snapshot.usable_share (husable m hm table s hs) (hleft m hm table s hs)
  · intro m hm table s hs hnodes
    apply share_eq_zero_iff (husable m hm table s hs) s.one_le_nodes hnodes

/-- Twice the least positive number among three nodes, and the least positive number for one. -/
theorem rates_usable_of_least_rates :
  let quota (rate : String) : Option Quota := some ⟨some rate⟩
  let view (version : UInt64) (n3 : NodeState) : View :=
    ⟨version, .ofPairs [("t_OFFLINE", .ofPairs [("n1", .online), ("n2", .online), ("n3", n3)])]⟩
  let store := Store.ofConfigs [⟨"t_OFFLINE", quota "1e-323"⟩, ⟨"t_REALTIME", quota "5e-324"⟩]
  let lookups := store.lookups
  let node := Manager.start "n1" none { QuotaSettings.default with epsilon := 0.0 }
  let operations : List (Lookups × Operation) :=
    [(lookups, .init 0 ⟨"t_OFFLINE", quota "1e-323"⟩ (some (view 1 .online))),
      (lookups, .init 1 ⟨"t_REALTIME", quota "5e-324"⟩ (some (view 1 .online))),
      (lookups, .process 2 (some (view 2 .offline)))]
  (∀ m ∈ node.states operations,
      ∀ table s, m.snapshot? table = some s → (s.share == 0.0) = false) ∧
    (∀ m ∈ node.states operations, m.Usable) ∧
    ∀ rate ∈ node.asked operations, Scalar.usable rate = true
  := by
  intro quota view store lookups node operations
  have hlisted : ∀ m ∈ node.states operations, ∀ entry ∈ m.registry.toList,
      (entry.2.snapshot.share == 0.0) = false := by
    decide +kernel
  have hleft : ∀ m ∈ node.states operations,
      ∀ table s, m.snapshot? table = some s → (s.share == 0.0) = false := by
    intro m hm table s hs
    obtain ⟨e, he, rfl⟩ := Option.map_eq_some_iff.mp hs
    apply hlisted m hm _ (Registry.mem_toList.mpr he)
  exact ⟨hleft, (rates_usable_iff "n1" none { QuotaSettings.default with epsilon := 0.0 }
    operations).1.mpr hleft⟩

/-- A rate of the least positive number, of which nothing is left for two nodes: a limiter is made
with a rate of zero, and a limiter that is to get this rate keeps its old one. -/
theorem share_lost_to_second_node :
  let quota : Option Quota := some ⟨some "5e-324"⟩
  let view (version : UInt64) (n2 : NodeState) : View :=
    ⟨version, .ofPairs [("t_OFFLINE", .ofPairs [("n1", .online), ("n2", n2)])]⟩
  let lookups := (Store.ofConfigs [⟨"t_OFFLINE", quota⟩]).lookups
  let node := Manager.start "n1" none { QuotaSettings.default with epsilon := 0.0 }
  let registered : List (Lookups × Operation) :=
    [(lookups, .init 0 ⟨"t_OFFLINE", quota⟩ (some (view 1 .online)))]
  let changed : List (Lookups × Operation) :=
    [(lookups, .init 0 ⟨"t_OFFLINE", quota⟩ (some (view 1 .offline))),
      (lookups, .process 1 (some (view 2 .online)))]
  Scalar.usable (0.0 : Float) = false ∧ share (5e-324 : Float) 2 = 0.0 ∧
    (node.run registered).rate? "t_OFFLINE" = some 0.0 ∧ node.asked registered = [0.0] ∧
    (node.run changed).rate? "t_OFFLINE" = some 5e-324 ∧
    (node.run changed).snapshot? "t_OFFLINE" = some ⟨2, 5e-324, 0, by decide⟩ ∧
    node.asked changed = [5e-324, 0.0]
  := by
  decide +kernel

end QuotaShare
