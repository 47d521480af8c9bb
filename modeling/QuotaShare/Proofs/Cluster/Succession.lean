import Mathlib.Data.List.Chain
import Mathlib.Tactic.Use
import QuotaShare.Cluster.Membership
import QuotaShare.Proofs.Manager.Gate

/-!
# The succession of views

A node looks for changes of a resource only when it is asked for a view of it.  It then counts one
version if the tables are not those of the last view it handed out, however often they have changed
in between, and none if every change was undone.  The version of a view therefore stands for its
tables, which a manager relies on when it skips a version that it knows.
-/

namespace QuotaShare

/-- Whether a view is followed by another one: the version is the same if the tables are the same,
and the next one if they are not. -/
def View.IsFollowedBy (earlier later : View) : Prop :=
  later.version.toNat = earlier.version.toNat + if later.tables = earlier.tables then 0 else 1

namespace View

theorem IsFollowedBy.precedes {earlier later : View} (h : earlier.IsFollowedBy later) :
  earlier.Precedes later
  := by
  rw [IsFollowedBy] at h
  constructor
  · rw [UInt64.le_iff_toNat_le, h]
    apply Nat.le_add_right
  · intro hversion
    by_contra htables
    rw [if_neg (Ne.symm htables), hversion] at h
    apply Nat.succ_ne_self _ h.symm

/-- What leads up to a view leads up to the later ones. -/
theorem Precedes.trans {first second third : View} (h : first.Precedes second)
    (h' : second.Precedes third) :
  first.Precedes third
  := by
  constructor
  · apply UInt64.le_trans h.1 h'.1
  · intro hversion
    have hsecond : first.version = second.version := by
      apply UInt64.le_antisymm h.1
      rw [hversion]
      apply h'.1
    rw [h.2 hsecond, h'.2 (hsecond.symm.trans hversion)]

instance : Trans Precedes Precedes Precedes :=
  ⟨Precedes.trans⟩

end View

namespace Peer

/-! ### One step -/

/-- Something that a node is asked for. -/
inductive Request where
  /-- Its state for a table of a resource is published. -/
  | publish (resource table : String) (state : NodeState)
  /-- A table is included in the views of a resource. -/
  | watch (resource table : String)
  /-- The current view of a resource is handed out. -/
  | view (resource : String)
  deriving DecidableEq

/-- A node after it did what it was asked for. -/
def step (p : Peer) : Request → Peer
  | .publish resource table state => (p.publish resource table state).value
  | .watch resource table => p.watch resource table
  | .view resource => (p.current resource).value.1

/-- The view of a resource that is handed out if it is asked for. -/
def view (p : Peer) (resource : String) : View :=
  (p.current resource).value.2

/-- The last view of a resource that was handed out; without one, the view of version zero. -/
def last (p : Peer) (resource : String) : View :=
  p.seen[resource]?.getD (View.empty 0)

theorem value_current (p : Peer) (resource : String) :
  (p.current resource).value =
    if (p.last resource).version = 0 ∨ (p.last resource).tables ≠ p.tables resource then
      let view : View := ⟨(p.last resource).version + 1, p.tables resource⟩
      ({ p with seen := p.seen.insert resource view }, view)
    else (p, p.last resource)
  := apply_ite Traced.value ..

/-- A view has the tables that are published at the time. -/
theorem tables_view (p : Peer) (resource : String) :
  (p.view resource).tables = p.tables resource
  := by
  rw [view, value_current]
  split
  · rfl
  · rename_i h
    apply not_not.mp (not_or.mp h).2

/-- A view has the next version, unless it is the last one. -/
theorem version_view (p : Peer) (resource : String) :
  (p.view resource).version =
    if (p.last resource).version = 0 ∨ (p.last resource).tables ≠ p.tables resource then
      (p.last resource).version + 1
    else (p.last resource).version
  := by
  rw [view, value_current]
  split
  · rfl
  · rfl

/-- The first view has version one. -/
theorem version_view_of_unseen {p : Peer} {resource : String} (h : p.seen[resource]? = none) :
  (p.view resource).version = 1
  := by
  rw [version_view, last, h]
  apply if_pos (Or.inl rfl)

/-- A later view follows the last one. -/
theorem isFollowedBy_view {p : Peer} {resource : String} {last : View}
    (hlast : p.seen[resource]? = some last) (hversion : last.version ≠ 0)
    (hnext : last.version.toNat + 1 < 18446744073709551616) :
  last.IsFollowedBy (p.view resource)
  := by
  have hlast : p.last resource = last := by
    rw [Peer.last, hlast]
    rfl
  rw [View.IsFollowedBy, tables_view, version_view, hlast]
  by_cases htables : p.tables resource = last.tables
  · rw [if_pos htables, if_neg (not_or_intro hversion (not_not.mpr htables.symm))]
    rfl
  · rw [if_neg htables, if_pos (Or.inr (Ne.symm htables))]
    apply (UInt64.toNat_add ..).trans (Nat.mod_eq_of_lt hnext)

/-- A view that is handed out becomes the last one of its resource, and of no other. -/
theorem seen_step (p : Peer) (request : Request) (resource : String) :
  (p.step request).seen[resource]? =
    if request = .view resource then some (p.view resource) else p.seen[resource]?
  := by
  cases request with
  | publish other table state => rfl
  | watch other table => rfl
  | view other =>
      simp only [Request.view.injEq]
      rw [step, value_current]
      split
      · rename_i h
        apply (ByName.getElem?_insert ..).trans
        apply ite_congr rfl _ (fun _ => rfl)
        rintro rfl
        rw [view, value_current, if_pos h]
      · -- Nothing is written if the last view is handed out again, so it has been seen.
        rename_i h
        split
        · rename_i hother
          subst hother
          rw [view, value_current, if_neg h]
          cases hseen : p.seen[other]? with
          | none =>
              rw [last, hseen] at h
              cases h (Or.inl rfl)
          | some last =>
              rw [Peer.last, hseen]
              rfl
        · rfl

/-- Whether there are versions left for a number of further views of a resource. -/
def HasVersions (p : Peer) (resource : String) (count : Nat) : Prop :=
  count < 18446744073709551616 ∧
    ∀ last ∈ p.seen[resource]?, last.version ≠ 0 ∧
      last.version.toNat + count < 18446744073709551616

/-- A view that is handed out takes at most one version. -/
theorem HasVersions.step_view {p : Peer} {resource : String} {count : Nat}
    (h : p.HasVersions resource (count + 1)) :
  (p.step (.view resource)).HasVersions resource count
  := by
  obtain ⟨hcount, hseen⟩ := h
  constructor
  · apply Nat.lt_of_succ_lt hcount
  · rw [seen_step, if_pos rfl]
    rintro _ ⟨⟩
    cases hlast : p.seen[resource]? with
    | none =>
        rw [version_view_of_unseen hlast]
        constructor
        · decide
        · rw [Nat.add_comm]
          apply hcount
    | some last =>
        obtain ⟨hversion, hlater⟩ := hseen last hlast
        have hview := isFollowedBy_view hlast hversion (by omega)
        have hle := hview.precedes.1
        rw [View.IsFollowedBy] at hview
        constructor
        · intro hzero
          rw [hzero] at hle
          apply hversion (UInt64.le_zero_iff.mp hle)
        · split at hview
          · omega
          · omega

/-- A request for anything else takes none. -/
theorem HasVersions.step_of_ne {p : Peer} {resource : String} {count : Nat}
    (h : p.HasVersions resource count) {request : Request} (hrequest : request ≠ .view resource) :
  (p.step request).HasVersions resource count
  := by
  rw [HasVersions, seen_step, if_neg hrequest]
  apply h

/-! ### Runs -/

/-- The views of a resource that a node hands out while it does what it is asked for, in order. -/
def views (resource : String) (p : Peer) : List Request → List View
  | [] => []
  | request :: later =>
    if request = .view resource then p.view resource :: views resource (p.step request) later
    else views resource (p.step request) later

/-- The first of the views that are handed out has version one. -/
theorem version_head_views {p : Peer} {resource : String} (h : p.seen[resource]? = none)
    {requests : List Request} :
  ∀ first ∈ (p.views resource requests).head?, first.version = 1
  := by
  induction requests generalizing p with
  | nil =>
      intro first hfirst
      cases hfirst
  | cons request requests ih =>
      rw [views]
      split
      · rintro _ ⟨⟩
        apply version_view_of_unseen h
      · rename_i hrequest
        apply ih
        rw [seen_step, if_neg hrequest, h]

/-- The last view that was handed out before, and each one that is, is followed by the next. -/
theorem isChain_views {p : Peer} {resource : String} {requests : List Request}
    (h : p.HasVersions resource (requests.count (.view resource))) :
  (p.seen[resource]?.toList ++ p.views resource requests).IsChain View.IsFollowedBy
  := by
  induction requests generalizing p with
  | nil =>
      rw [views, List.append_nil]
      cases p.seen[resource]? with
      | none => apply List.isChain_nil
      | some last => apply List.isChain_singleton
  | cons request requests ih =>
      rw [views]
      split
      · rename_i hrequest
        subst hrequest
        rw [List.count_cons_self] at h
        have hlater := ih h.step_view
        rw [seen_step, if_pos rfl] at hlater
        cases hlast : p.seen[resource]? with
        | none => apply hlater
        | some last =>
            obtain ⟨hversion, hroom⟩ := h.2 last hlast
            apply List.isChain_cons_cons.mpr
            use isFollowedBy_view hlast hversion (by omega)
            apply hlater
      · rename_i hrequest
        rw [List.count_cons_of_ne hrequest] at h
        have hlater := ih (h.step_of_ne hrequest)
        rw [seen_step, if_neg hrequest] at hlater
        apply hlater

end Peer

/-- For every sequence of publications, watched tables and requests for views, of any resources, with
fewer than two to the power of 64 requests for views of a resource: the first view of the resource
has version one, and every later one has the version of the view before if its tables are the same
and the next version if they are not.  So the versions never decrease, and views with the same
version have the same tables, whether or not one comes right after the other. -/
theorem views_numbered (localNode resource : String) {requests : List Peer.Request}
    (hrequests : requests.count (.view resource) < 18446744073709551616) {views : List View}
    (hviews : (Peer.empty localNode).views resource requests = views) :
  (∀ first ∈ views.head?, first.version = 1) ∧
  views.IsChain View.IsFollowedBy ∧
  views.Pairwise View.Precedes
  := by
  subst hviews
  have hseen : (Peer.empty localNode).seen[resource]? = none := Std.ExtTreeMap.getElem?_empty
  have hversions : (Peer.empty localNode).HasVersions resource
      (requests.count (.view resource)) := by
    use hrequests
    rw [hseen]
    rintro _ ⟨⟩
  have hchain := Peer.isChain_views hversions
  rw [hseen] at hchain
  refine ⟨Peer.version_head_views hseen, hchain, ?_⟩
  apply (hchain.imp fun _ _ => View.IsFollowedBy.precedes).pairwise

/-- A change that is undone before the next view, changes of another resource, and a table that is
watched before it has a state. -/
theorem views_numbered_after_undone_change :
  let requests : List Peer.Request :=
    [.view "r", .publish "r" "a" .online, .view "s", .view "r", .publish "r" "a" .offline,
      .publish "r" "a" .online, .view "r", .publish "s" "a" .error, .watch "r" "b", .view "s",
      .view "r", .publish "r" "b" .dropped, .view "r"]
  let states (state : NodeState) : NodeStates := .ofPairs [("n1", state)]
  let tables : ByName NodeStates := .ofPairs [("a", states .online)]
  let views : List View := [⟨1, ∅⟩, ⟨2, tables⟩, ⟨2, tables⟩, ⟨2, tables⟩,
    ⟨3, .ofPairs [("a", states .online), ("b", states .dropped)]⟩]
  requests.count (.view "r") < 18446744073709551616 ∧
    (Peer.empty "n1").views "r" requests = views ∧
    (∀ first ∈ views.head?, first.version = 1) ∧ views.IsChain View.IsFollowedBy ∧
    views.Pairwise View.Precedes
  := by
  intro requests states tables views
  have hrequests : requests.count (.view "r") < 18446744073709551616 := by decide
  have hviews : (Peer.empty "n1").views "r" requests = views := by decide +kernel
  exact ⟨hrequests, hviews, views_numbered "n1" "r" hrequests hviews⟩

end QuotaShare
