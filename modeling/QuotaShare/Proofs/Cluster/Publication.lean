import QuotaShare.Proofs.Cluster.Succession

/-!
# Published states

The states for the tables of all resources are published in one space of keys.  A view of a resource
tells, for each table it includes, the state that was last published under the key of the table.  The
names in a key are set apart by a bar, and may contain bars themselves: two tables of two resources
can have the same key, and the views of one resource then tell what was published for the other.
Nothing else is ever mixed up.
-/

namespace QuotaShare

/-! ### Keys -/

/-- A text is set apart by a bar in two ways only if one of the parts contains the other bar. -/
theorem append_bar_append_eq_iff {resource table other table' : List Char} :
  other ++ '|' :: table' = resource ++ '|' :: table ↔
    (other = resource ∧ table' = table) ∨
    (∃ middle, resource = other ++ '|' :: middle ∧ table' = middle ++ '|' :: table) ∨
    ∃ middle, other = resource ++ '|' :: middle ∧ table = middle ++ '|' :: table'
  := by
  rw [List.append_eq_append_iff]
  constructor
  · rintro (⟨rest, hresource, htable⟩ | ⟨rest, hother, htable⟩)
    · cases rest with
      | nil =>
          rw [List.append_nil] at hresource
          exact Or.inl ⟨hresource.symm, (List.cons.inj htable).2⟩
      | cons bar middle =>
          obtain ⟨rfl, rfl⟩ := List.cons.inj htable
          exact Or.inr (Or.inl ⟨middle, hresource, rfl⟩)
    · cases rest with
      | nil =>
          rw [List.append_nil] at hother
          exact Or.inl ⟨hother, (List.cons.inj htable).2.symm⟩
      | cons bar middle =>
          obtain ⟨rfl, rfl⟩ := List.cons.inj htable
          exact Or.inr (Or.inr ⟨middle, hother, rfl⟩)
  · rintro (⟨rfl, rfl⟩ | ⟨middle, rfl, rfl⟩ | ⟨middle, rfl, rfl⟩)
    · exact Or.inl ⟨[], (List.append_nil _).symm, rfl⟩
    · exact Or.inl ⟨'|' :: middle, rfl, rfl⟩
    · exact Or.inr ⟨'|' :: middle, rfl, rfl⟩

theorem toList_stateKey (resource table : String) :
  (stateKey resource table).toList = "resource|".toList ++ (resource.toList ++ '|' :: table.toList)
  := by
  rw [stateKey, String.toList_append, String.toList_append, String.toList_append,
    List.append_assoc, List.append_assoc]
  rfl

/-- Different tables have the same key exactly if one of the resources is the other one with a bar and
a text after it, and the table of the other one is this text with a bar and the table after it. -/
theorem stateKey_eq_iff {resource table other table' : String} :
  stateKey other table' = stateKey resource table ↔
    (other = resource ∧ table' = table) ∨
    (∃ middle, resource = other ++ "|" ++ middle ∧ table' = middle ++ "|" ++ table) ∨
    ∃ middle, other = resource ++ "|" ++ middle ∧ table = middle ++ "|" ++ table'
  := by
  have hiff (whole first last : String) :
      whole = first ++ "|" ++ last ↔ whole.toList = first.toList ++ '|' :: last.toList := by
    rw [← String.toList_inj, String.toList_append, String.toList_append, List.append_assoc]
    rfl
  have hsurjective : Function.Surjective String.toList :=
    fun chars => ⟨String.ofList chars, String.toList_ofList⟩
  rw [← String.toList_inj, toList_stateKey, toList_stateKey, List.append_cancel_left_eq,
    append_bar_append_eq_iff]
  simp only [hiff, String.toList_inj, hsurjective.exists]

namespace Peer

/-! ### Publications -/

/-- A node after it did what it was asked for, one thing after the other. -/
def run (p : Peer) (requests : List Request) : Peer :=
  requests.foldl step p

/-- The state that a request publishes, if it publishes one for names that count. -/
def Request.state? (counts : String → String → Bool) : Request → Option NodeState
  | publish resource table state => if counts resource table then some state else none
  | _ => none

/-- The state that was last published for names that count. -/
def lastState? (counts : String → String → Bool) (requests : List Request) : Option NodeState :=
  requests.reverse.findSome? (Request.state? counts)

/-- Whether a request includes a table in the views of a resource. -/
def Request.includes (resource table : String) : Request → Bool
  | publish other table' _ => other = resource ∧ table' = table
  | watch other table' => other = resource ∧ table' = table
  | view _ => false

variable {counts counts' : String → String → Bool}

theorem lastState?_cons (request : Request) (later : List Request) :
  lastState? counts (request :: later) = (lastState? counts later).or (request.state? counts)
  := by
  rw [lastState?, List.reverse_cons, List.findSome?_append, List.findSome?_singleton]
  rfl

/-- Only the names in the requests matter. -/
theorem lastState?_congr {requests : List Request}
    (h : ∀ resource table state, .publish resource table state ∈ requests →
      counts resource table = counts' resource table) :
  lastState? counts requests = lastState? counts' requests
  := by
  induction requests with
  | nil => rfl
  | cons request requests ih =>
      rw [lastState?_cons, lastState?_cons]
      congr 1
      · apply ih
        intro resource table state hmem
        apply h resource table state (List.mem_cons_of_mem _ hmem)
      · cases request with
        | publish resource table state =>
            rw [Request.state?, Request.state?, h resource table state List.mem_cons_self]
        | watch resource table => rfl
        | view resource => rfl

/-- Without a publication for names that count there is no last one. -/
theorem lastState?_eq_none {requests : List Request}
    (h : ∀ resource table state, .publish resource table state ∈ requests →
      counts resource table = false) :
  lastState? counts requests = none
  := by
  rw [lastState?, List.findSome?_eq_none_iff]
  intro request hmem
  rw [List.mem_reverse] at hmem
  cases request with
  | publish resource table state =>
      rw [Request.state?, h resource table state hmem]
      rfl
  | watch resource table => rfl
  | view resource => rfl

/-! ### One step -/

/-- Handing out a view changes nothing but the last views. -/
theorem exists_step_view (p : Peer) (resource : String) :
  ∃ seen, p.step (.view resource) = { p with seen }
  := by
  rw [step, value_current]
  split
  · exact ⟨_, rfl⟩
  · exact ⟨p.seen, rfl⟩

theorem localNode_step (p : Peer) (request : Request) :
  (p.step request).localNode = p.localNode
  := by
  cases request with
  | publish resource table state => rfl
  | watch resource table => rfl
  | view resource =>
      obtain ⟨seen, hstep⟩ := p.exists_step_view resource
      rw [hstep]

/-- A publication replaces what was published under its key, and nothing else does. -/
theorem published_step (p : Peer) (request : Request) (key : String) :
  (p.step request).published[key]? =
    ((request.state? fun resource table => stateKey resource table = key).map
      NodeState.text).or p.published[key]?
  := by
  cases request with
  | publish resource table state =>
      apply (ByName.getElem?_insert ..).trans
      simp only [Request.state?, decide_eq_true_eq]
      split
      · rfl
      · rfl
  | watch resource table => rfl
  | view resource =>
      obtain ⟨seen, hstep⟩ := p.exists_step_view resource
      rw [hstep]
      rfl

theorem mem_watchedTables_watch {p : Peer} {resource table other table' : String} :
  table ∈ (p.watch other table').watchedTables resource ↔
    (other = resource ∧ table' = table) ∨ table ∈ p.watchedTables resource
  := by
  rw [watchedTables, watch, ByName.getElem?_insert]
  split
  · rename_i h
    subst h
    rw [Option.getD_some, Std.ExtTreeSet.mem_insert, Std.compare_eq_iff_eq]
    simp only [true_and]
  · rename_i h
    simp only [h, false_and, false_or]
    rfl

/-- A table that was included stays included. -/
theorem mem_watchedTables_step {p : Peer} {request : Request} {resource table : String} :
  table ∈ (p.step request).watchedTables resource ↔
    request.includes resource table = true ∨ table ∈ p.watchedTables resource
  := by
  cases request with
  | publish other table' state =>
      rw [Request.includes, decide_eq_true_iff]
      apply mem_watchedTables_watch
  | watch other table' =>
      rw [Request.includes, decide_eq_true_iff]
      apply mem_watchedTables_watch
  | view other =>
      obtain ⟨seen, hstep⟩ := p.exists_step_view other
      rw [hstep, Request.includes]
      simp only [Bool.false_eq_true, false_or]
      rfl

/-- A view tells of the included tables what was published under their keys. -/
theorem states?_view (p : Peer) (resource table : String) :
  (p.view resource).states? table =
    if table ∈ p.watchedTables resource then p.states resource table else none
  := by
  rw [View.states?, tables_view, tables, ByName.getElem?_ofPairs_filterMap]
  simp only [Std.ExtTreeSet.mem_toList]

/-- Publishing under another key changes nothing for a table. -/
theorem states?_view_publish_of_ne (p : Peer) {resource table other table' : String}
    (h : stateKey other table' ≠ stateKey resource table) (state : NodeState) :
  ((p.step (.publish other table' state)).view resource).states? table =
    (p.view resource).states? table
  := by
  have hincludes : (Request.publish other table' state).includes resource table = false := by
    rw [Request.includes, decide_eq_false_iff_not]
    rintro ⟨rfl, rfl⟩
    apply h rfl
  rw [states?_view, states?_view, states, states, localNode_step, published_step, Request.state?,
    if_neg (mt of_decide_eq_true h)]
  simp only [mem_watchedTables_step, hincludes, Bool.false_eq_true, false_or, Option.map_none,
    Option.none_or]

/-! ### Runs -/

theorem localNode_run (p : Peer) (requests : List Request) :
  (p.run requests).localNode = p.localNode
  := by
  induction requests generalizing p with
  | nil => rfl
  | cons request requests ih =>
      rw [run, List.foldl_cons]
      apply (ih _).trans (localNode_step ..)

/-- What is published under a key is what was published last. -/
theorem published_run (p : Peer) (requests : List Request) (key : String) :
  (p.run requests).published[key]? =
    ((lastState? (fun resource table => stateKey resource table = key) requests).map
      NodeState.text).or p.published[key]?
  := by
  induction requests generalizing p with
  | nil => rfl
  | cons request requests ih =>
      rw [lastState?_cons, Option.map_or, Option.or_assoc, ← published_step]
      apply ih

/-- The tables that are included are those that some request includes. -/
theorem mem_watchedTables_run {p : Peer} {requests : List Request} {resource table : String} :
  table ∈ (p.run requests).watchedTables resource ↔
    (∃ request ∈ requests, request.includes resource table = true) ∨
      table ∈ p.watchedTables resource
  := by
  induction requests generalizing p with
  | nil => simp [run]
  | cons request requests ih =>
      rw [run, List.foldl_cons]
      apply ih.trans
      rw [mem_watchedTables_step]
      simp [or_assoc, or_left_comm]

/-- A view tells of a table that was included what was last published under its key. -/
theorem states?_view_run (localNode : String) (requests : List Request) (resource table : String) :
  (((empty localNode).run requests).view resource).states? table =
    if ∃ request ∈ requests, request.includes resource table = true then
      (lastState? (fun other table' => stateKey other table' = stateKey resource table) requests).map
        fun state => (∅ : NodeStates).insert localNode (NodeState.ofText state.text)
    else none
  := by
  have hwatched : table ∉ (empty localNode).watchedTables resource := by
    rw [watchedTables, empty, Std.ExtTreeMap.getElem?_empty]
    apply Std.ExtTreeSet.not_mem_empty
  have hpublished : (empty localNode).published[stateKey resource table]? = none :=
    Std.ExtTreeMap.getElem?_empty
  rw [states?_view, states, localNode_run, published_run, hpublished, Option.or_none,
    Option.map_map]
  simp only [mem_watchedTables_run, hwatched, or_false]
  rfl

end Peer

open Peer

/-- What a view tells of a table, for every sequence of publications, watched tables and requests for
views, and any names.  If the table was published or watched, it is in the state that was last
published under its key; otherwise it is not in the view.  So as long as nothing was published under
its key for other names, it is in the view exactly if a state was published for it, and in the last
such state.  A publication under another key never changes that, and the key is another one unless
a bar in the name of one of the resources can be read as the bar before the table. -/
theorem view_of_published (localNode resource table : String) (requests : List Request) :
  let p := (Peer.empty localNode).run requests
  let told (state : NodeState) : NodeStates :=
    (∅ : NodeStates).insert localNode (NodeState.ofText state.text)
  (p.view resource).states? table =
    (if ∃ request ∈ requests, request.includes resource table = true then
      (lastState? (fun other table' => stateKey other table' = stateKey resource table)
        requests).map told
    else none) ∧
  ((∀ other table' state, .publish other table' state ∈ requests →
      stateKey other table' = stateKey resource table → other = resource ∧ table' = table) →
    (p.view resource).states? table =
      (lastState? (fun other table' => other = resource ∧ table' = table) requests).map told) ∧
  (∀ other table' state, stateKey other table' ≠ stateKey resource table →
    ((p.step (.publish other table' state)).view resource).states? table =
      (p.view resource).states? table) ∧
  ∀ other table', stateKey other table' = stateKey resource table ↔
    (other = resource ∧ table' = table) ∨
    (∃ middle, resource = other ++ "|" ++ middle ∧ table' = middle ++ "|" ++ table) ∨
    ∃ middle, other = resource ++ "|" ++ middle ∧ table = middle ++ "|" ++ table'
  := by
  intro p told
  refine ⟨states?_view_run localNode requests resource table, ?_,
    fun other table' state h => p.states?_view_publish_of_ne h state,
    fun other table' => stateKey_eq_iff⟩
  intro hkey
  apply (states?_view_run localNode requests resource table).trans
  split
  · congr 1
    apply lastState?_congr
    intro other table' state hmem
    apply decide_eq_decide.mpr
    constructor
    · apply hkey other table' state hmem
    · rintro ⟨rfl, rfl⟩
      rfl
  · -- A table that no request includes was not published either.
    rename_i hincludes
    rw [lastState?_eq_none]
    · rfl
    · intro other table' state hmem
      apply decide_eq_false
      intro h
      apply hincludes
      use .publish other table' state, hmem
      apply decide_eq_true h

/-- A table with a state that was replaced and that other resources and tables have states for, and
a table that is only watched. -/
theorem view_of_published_of_two_resources :
  let requests : List Request :=
    [.publish "a" "t" .online, .watch "a" "u", .publish "b" "t" .dropped,
      .publish "a" "t" (.other "ERROR"), .view "a", .publish "a|b" "u" .offline,
      .publish "a" "|t" .online]
  let p := (Peer.empty "n1").run requests
  (∀ other table' state, .publish other table' state ∈ requests →
      stateKey other table' = stateKey "a" "t" → other = "a" ∧ table' = "t") ∧
    (p.view "a").states? "t" = some (.ofPairs [("n1", .error)]) ∧
    (p.view "a").states? "u" = none ∧
    stateKey "a|" "t" ≠ stateKey "a" "t" ∧
    ((p.step (.publish "a|" "t" .online)).view "a").states? "t" = (p.view "a").states? "t"
  := by
  intro requests p
  have hothers : ∀ request ∈ requests, request.state? (fun other table' =>
      stateKey other table' = stateKey "a" "t" ∧ ¬ (other = "a" ∧ table' = "t")) = none := by
    decide
  have hkeys : ∀ other table' state, .publish other table' state ∈ requests →
      stateKey other table' = stateKey "a" "t" → other = "a" ∧ table' = "t" := by
    intro other table' state hmem hkey
    have hother := hothers _ hmem
    by_contra hne
    rw [Request.state?, if_pos (decide_eq_true ⟨hkey, hne⟩)] at hother
    cases hother
  obtain ⟨_, htold, hother, _⟩ := view_of_published "n1" "a" "t" requests
  have hne : stateKey "a|" "t" ≠ stateKey "a" "t" := by decide
  refine ⟨hkeys, ?_, ?_, hne, hother "a|" "t" .online hne⟩
  · rw [htold hkeys]
    decide +kernel
  · rw [(view_of_published "n1" "a" "u" requests).1]
    decide +kernel

/-- Two tables of two resources with the same key: a view tells of a table what was published for
the other one, after what was published for the table itself and also if nothing was. -/
theorem view_ne_published :
  let published : List Request := [.publish "a" "b|c" .online, .publish "a|b" "c" .offline]
  let watched : List Request := [.watch "a" "b|c", .publish "a|b" "c" .offline]
  let last (requests : List Request) : Option NodeState :=
    lastState? (fun resource table => resource = "a" ∧ table = "b|c") requests
  let states (requests : List Request) : Option NodeStates :=
    (((Peer.empty "n1").run requests).view "a").states? "b|c"
  last published = some .online ∧ states published = some (.ofPairs [("n1", .offline)]) ∧
    last watched = none ∧ states watched = some (.ofPairs [("n1", .offline)])
  := by
  decide +kernel

end QuotaShare
