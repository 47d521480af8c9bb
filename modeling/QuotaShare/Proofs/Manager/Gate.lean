import QuotaShare.Manager.Watch
import QuotaShare.Proofs.Manager.Run

/-!
# The version gate

A pass is skipped when the version of the view is that of the last pass, although tables may have
been registered since then, against views of their own.  No change of the nodes is missed by it:
each tracked table was counted in a view that was current at some time and is not older than the one
of the last pass, so when the last version is the current one, that view has the current tables.
-/

namespace QuotaShare

/-- Whether a view can come before another one of the same source: versions do not decrease, and a
version stands for the same tables. -/
def View.Precedes (earlier later : View) : Prop :=
  earlier.version ≤ later.version ∧
    (earlier.version = later.version → earlier.tables = later.tables)

instance : DecidableRel View.Precedes :=
  fun _ _ => inferInstanceAs (Decidable (_ ∧ _))

/-- Views with the same version count the same nodes. -/
theorem View.Precedes.onlineCount_eq {earlier later : View} (h : earlier.Precedes later)
    (hversion : earlier.version = later.version) (table localNode : String) :
  earlier.onlineCount table localNode = later.onlineCount table localNode
  := by
  rw [onlineCount, states?, h.2 hversion]
  rfl

/-! ### A manager at work -/

/-- A manager with the answers about the stored quotas, and the source of the views of a resource. -/
structure Watcher where
  manager : Manager
  lookups : Lookups
  source : Membership
  resource : String

/-- Something that happens to a manager at work. -/
inductive Occurrence where
  /-- Quotas are written or deleted, or look-ups begin or cease to fail. -/
  | answer (lookups : Lookups)
  /-- The source changes: it has another view of the resource, or none. -/
  | change (source : Membership)
  /-- The manager starts to track a table, against the current view. -/
  | init (now : Nat) (config : TableConfig)
  /-- The manager stops tracking a table. -/
  | drop (table : String)
  /-- The manager stops tracking every table. -/
  | clear
  /-- A query is charged. -/
  | acquire (now : Nat) (name : String)
  /-- The manager is told of a change, or polls the source. -/
  | notify (now : Nat) (change : Change)

namespace Watcher

/-- The current view of the resource, if there is one. -/
def view? (w : Watcher) : Option View :=
  (w.source.current w.resource).value.2

/-- A manager at work after something happened. -/
def step (w : Watcher) : Occurrence → Watcher
  | .answer lookups => { w with lookups }
  | .change source => { w with source }
  | .init now config =>
    let (source, view) := (w.source.current w.resource).value
    { w with manager := (w.manager.init w.lookups now config view).value.1, source }
  | .drop table => { w with manager := (w.manager.drop table).value }
  | .clear => { w with manager := w.manager.clear }
  | .acquire now name => { w with manager := (w.manager.acquire now name).value.manager }
  | .notify now change =>
    match w.manager.onChange w.lookups now w.source w.resource change with
    | .ok reaction => { w with manager := reaction.value.manager, source := reaction.value.source }
    | .error _ => w

/-- A manager at work after things happened, one after the other. -/
def run (w : Watcher) (occurrences : List Occurrence) : Watcher :=
  occurrences.foldl step w

/-- The view that is handed to the manager when something happens: the current one, if the manager
starts to track a table or makes a pass. -/
def seen? (w : Watcher) : Occurrence → Option View
  | .init _ _ => w.view?
  | .notify _ change => if change = .externalView then w.view? else none
  | _ => none

/-- The views that are handed to the manager as things happen, and the one that is current at the
end.  Other views that the source has on the way are not among them. -/
def views (w : Watcher) : List Occurrence → List View
  | [] => w.view?.toList
  | occurrence :: later => (w.seen? occurrence).toList ++ (w.step occurrence).views later

end Watcher

/-- Whether the view that an operation looks at, if it looks at one, is a given one. -/
def Operation.LooksAt (view : Option View) : Operation → Prop
  | .init _ _ seen => seen = view
  | .process _ seen => seen = view
  | _ => True

/-- The manager only performs operations, against the view that it is handed. -/
theorem Watcher.manager_step (w : Watcher) (occurrence : Occurrence) :
  (w.step occurrence).manager = w.manager ∨
    ∃ operation, operation.LooksAt (w.seen? occurrence) ∧
      (w.step occurrence).manager = w.manager.perform w.lookups operation
  := by
  cases occurrence with
  | answer lookups =>
      left
      rfl
  | change source =>
      left
      rfl
  | init now config =>
      right
      use .init now config w.view?, rfl
      rfl
  | drop table =>
      right
      use .drop table, trivial
      rfl
  | clear =>
      right
      use .clear, trivial
      rfl
  | acquire now name =>
      right
      use .acquire now name, trivial
      rfl
  | notify now change =>
      by_cases hchange : change = .externalView
      · right
        use .process now w.view?
        rw [seen?, step, Manager.onChange, if_pos hchange, if_pos hchange]
        exact ⟨rfl, rfl⟩
      · left
        rw [step, Manager.onChange, if_neg hchange]

/-! ### Counts of past views -/

/-- Whether the last version is that of a past view, and each table was counted in a past view that
is not older. -/
structure Manager.Abreast (localNode : String) (past : List View) (m : Manager) : Prop where
  node : m.localNode = localNode
  last : ∀ version, m.lastVersion = some version → ∃ view ∈ past, view.version = version
  counted : ∀ (table : String) (e : Entity), m.entity? table = some e →
    ∃ view ∈ past, e.snapshot.nodes = view.onlineCount table localNode ∧
      ∀ version, m.lastVersion = some version → version ≤ view.version

namespace Manager.Abreast

variable {localNode : String} {past : List View} {m : Manager}

theorem start (localNode : String) (sink : Option Sink) (settings : QuotaSettings) :
  Abreast localNode [] (Manager.start localNode sink settings)
  := by
  constructor
  · rfl
  · intro version h
    cases h
  · intro table e he
    rw [entity?_start] at he
    cases he

/-- Nothing is lost when more views are past. -/
theorem append (h : Abreast localNode past m) (later : List View) :
  Abreast localNode (past ++ later) m
  := by
  constructor
  · apply h.node
  · intro version hlast
    obtain ⟨view, hview, hversion⟩ := h.last version hlast
    use view, List.mem_append_left _ hview
  · intro table e he
    obtain ⟨view, hview, hcounted⟩ := h.counted table e he
    use view, List.mem_append_left _ hview

/-- After an operation, the last version is that of the view looked at or of an earlier one. -/
theorem last_perform (h : Abreast localNode past m) {view : Option View} {operation : Operation}
    (hlooks : operation.LooksAt view) (lookups : Lookups) {version : UInt64}
    (hlast : (m.perform lookups operation).lastVersion = some version) :
  ∃ seen ∈ past ++ view.toList, seen.version = version
  := by
  rw [lastVersion_perform] at hlast
  split at hlast
  · rename_i now seen
    cases hlast
    obtain rfl : some seen = view := hlooks
    use seen, List.mem_append_right _ List.mem_cons_self
  · obtain ⟨seen, hseen, hversion⟩ := h.last version hlast
    use seen, List.mem_append_left _ hseen

/-- An operation that looks at a view to which the past views lead up keeps every table counted. -/
theorem perform (h : Abreast localNode past m) {view : Option View}
    (hpast : ∀ earlier ∈ past, ∀ later ∈ view.toList, earlier.Precedes later)
    {operation : Operation} (hlooks : operation.LooksAt view) (lookups : Lookups) :
  Abreast localNode (past ++ view.toList) (m.perform lookups operation)
  := by
  constructor
  · rw [(m.fixed_perform lookups operation).1, h.node]
  · intro version
    apply h.last_perform hlooks
  · intro table e' he'
    obtain ⟨now, config, seen, s, rfl, rfl, hs, rfl⟩ | ⟨e, now, k, he, rfl, hlast⟩ |
      ⟨now, seen, e, rfl, _, he, hverdict⟩ := entity?_perform he'
    · -- A table that is registered is counted in the view looked at, and the last version is past.
      obtain rfl : seen = view := hlooks
      obtain ⟨seen, rfl, hnodes, _⟩ := m.value_register?_eq_some_iff.mp hs
      use seen, List.mem_append_right _ List.mem_cons_self
      constructor
      · rw [← h.node]
        apply hnodes
      · intro version hlast
        rw [lastVersion_perform] at hlast
        obtain ⟨earlier, hearlier, rfl⟩ := h.last version hlast
        apply (hpast earlier hearlier seen List.mem_cons_self).1
    · obtain ⟨seen, hseen, hnodes, hversion⟩ := h.counted table e he
      use seen, List.mem_append_left _ hseen
      rw [e.snapshot_charge now k, hlast]
      use hnodes
    · -- A table that is looked at by a pass is counted in its view, which gives the last version.
      obtain rfl : some seen = view := hlooks
      use seen, List.mem_append_right _ List.mem_cons_self
      constructor
      · rw [← h.node]
        apply m.nodes_reconsider hverdict
      · intro version hlast
        rw [lastVersion_perform] at hlast
        cases hlast
        apply UInt64.le_refl

/-- When the last version is that of a view to which the past views lead up, each table has the
nodes of this view. -/
theorem nodes_eq (h : Abreast localNode past m) {view : View}
    (hpast : ∀ earlier ∈ past, earlier.Precedes view) (hlast : m.lastVersion = some view.version)
    {table : String} {e : Entity} (he : m.entity? table = some e) :
  e.snapshot.nodes = view.onlineCount table localNode
  := by
  obtain ⟨seen, hseen, hnodes, hversion⟩ := h.counted table e he
  have hprecedes := hpast seen hseen
  rw [hnodes]
  apply hprecedes.onlineCount_eq
  apply UInt64.le_antisymm hprecedes.1
  apply hversion view.version hlast

end Manager.Abreast

/-! ### Runs -/

namespace Watcher

theorem abreast_step {w : Watcher} {localNode : String} {past : List View}
    (h : w.manager.Abreast localNode past)
    {occurrence : Occurrence}
    (hpast : ∀ earlier ∈ past, ∀ later ∈ (w.seen? occurrence).toList, earlier.Precedes later) :
  (w.step occurrence).manager.Abreast localNode (past ++ (w.seen? occurrence).toList)
  := by
  obtain hmanager | ⟨operation, hlooks, hmanager⟩ := w.manager_step occurrence
  · rw [hmanager]
    apply h.append
  · rw [hmanager]
    apply h.perform hpast hlooks

/-- If the views that are handed out in a run lead up to each other and to the one that is current at
its end, the manager is abreast of those that were handed out. -/
theorem abreast_run {w : Watcher} {localNode : String} {past : List View}
    (h : w.manager.Abreast localNode past) {occurrences : List Occurrence}
    (hviews : (past ++ w.views occurrences).Pairwise View.Precedes) :
  ∃ past', (w.run occurrences).manager.Abreast localNode past' ∧
    ∀ earlier ∈ past', ∀ later ∈ (w.run occurrences).view?.toList, earlier.Precedes later
  := by
  induction occurrences generalizing w past with
  | nil => exact ⟨past, h, (List.pairwise_append.mp hviews).2.2⟩
  | cons occurrence occurrences ih =>
      rw [views, ← List.append_assoc] at hviews
      have hpast := (List.pairwise_append.mp (List.pairwise_append.mp hviews).1).2.2
      apply ih (abreast_step h hpast) hviews

end Watcher

/-- However registrations, removals, queries, polls and changes of the store and of the source follow
each other, as long as the versions never decrease and a version stands for the same tables, among the
views that are handed to registrations and passes and the one that is current at the end: whenever the
last version is that of the current view, every tracked table has the nodes of this view. -/
theorem nodes_eq_of_lastVersion_eq (localNode : String) (sink : Option Sink)
    (settings : QuotaSettings) (lookups : Lookups) (source : Membership) (resource : String)
    {occurrences : List Occurrence}
    (hviews : (Watcher.views ⟨Manager.start localNode sink settings, lookups, source, resource⟩
      occurrences).Pairwise View.Precedes)
    {w : Watcher}
    (hrun : Watcher.run ⟨Manager.start localNode sink settings, lookups, source, resource⟩
      occurrences = w)
    {view : View} (hview : w.view? = some view)
    (hlast : w.manager.lastVersion = some view.version)
    {table : String} {s : Snapshot} (hs : w.manager.snapshot? table = some s) :
  s.nodes = view.onlineCount table localNode
  := by
  subst hrun
  have hstart := Manager.Abreast.start localNode sink settings
  obtain ⟨past, habreast, hpast⟩ := Watcher.abreast_run
    (w := ⟨Manager.start localNode sink settings, lookups, source, resource⟩) hstart hviews
  obtain ⟨e, he, rfl⟩ := Option.map_eq_some_iff.mp hs
  rw [hview] at hpast
  apply habreast.nodes_eq (fun earlier h => hpast earlier h view List.mem_cons_self) hlast he

/-- A table that is registered between two polls, against a newer view than the last one; a view with
the same version and other tables that nobody looks at; a time without a view; and a poll that is
skipped. -/
theorem nodes_eq_after_skipped_poll :
  let node := Manager.start "n1" none QuotaSettings.default
  let view (version : UInt64) (n2 : NodeState) : View :=
    ⟨version, .ofPairs [("a_OFFLINE", .ofPairs [("n1", .online), ("n2", n2)]),
      ("b_OFFLINE", .ofPairs [("n2", n2), ("n3", .online)])]⟩
  let board (view : Option View) : Membership :=
    .board (match view with
      | some view => (Board.empty "n1").set "r" view
      | none => Board.empty "n1")
  let quota : Option Quota := some ⟨some "60"⟩
  let stored := Store.ofConfigs [⟨"a_OFFLINE", quota⟩, ⟨"b_OFFLINE", quota⟩]
  let occurrences : List Occurrence :=
    [.answer stored.lookups, .init 0 ⟨"a_OFFLINE", quota⟩, .notify 1 .externalView,
      .change (board (some (view 2 .online))), .notify 2 .idealState,
      .change (board (some (view 2 .offline))), .init 2 ⟨"b_OFFLINE", quota⟩,
      .notify 3 .liveInstance, .change (board none), .notify 4 .externalView, .acquire 5 "a",
      .change (board (some (view 2 .offline))), .notify 6 .externalView,
      .notify 7 .externalView]
  let w : Watcher := ⟨node, Store.empty.lookups, board (some (view 1 .online)), "r"⟩
  (w.views occurrences).Pairwise View.Precedes ∧
    (w.run occurrences).view? = some (view 2 .offline) ∧
    (w.run occurrences).manager.lastVersion = some 2 ∧
    (w.run occurrences).manager.snapshot? "a_OFFLINE" = some ⟨1, 60.0, 0, by decide⟩ ∧
    1 = (view 2 .offline).onlineCount "a_OFFLINE" "n1" ∧
    (w.run occurrences).manager.snapshot? "b_OFFLINE" = some ⟨2, 60.0, 1, by decide⟩ ∧
    2 = (view 2 .offline).onlineCount "b_OFFLINE" "n1"
  := by
  intro node view board quota stored occurrences w
  have hviews : (w.views occurrences).Pairwise View.Precedes := by decide +kernel
  have hview : (w.run occurrences).view? = some (view 2 .offline) := by decide +kernel
  have hlast : (w.run occurrences).manager.lastVersion = some 2 := by decide +kernel
  have ha : (w.run occurrences).manager.snapshot? "a_OFFLINE" =
      some ⟨1, 60.0, 0, by decide⟩ := by
    decide +kernel
  have hb : (w.run occurrences).manager.snapshot? "b_OFFLINE" =
      some ⟨2, 60.0, 1, by decide⟩ := by
    decide +kernel
  have h {table : String} {s : Snapshot}
      (hs : (w.run occurrences).manager.snapshot? table = some s) :=
    nodes_eq_of_lastVersion_eq "n1" none QuotaSettings.default Store.empty.lookups
      (board (some (view 1 .online))) "r" hviews rfl hview hlast hs
  exact ⟨hviews, hview, hlast, ha, h ha, hb, h hb⟩

end QuotaShare
