import Std.Data.ExtTreeSet
import QuotaShare.Cluster.View
import QuotaShare.Event

/-!
# Membership

Sources of cluster views.  A board holds views that are set by hand; a peer makes views from the
states that were published under its keys, and counts their versions.
-/

namespace QuotaShare

/-- Views that are set by hand, by resource. -/
structure Board where
  localNode : String
  views : ByName View

namespace Board

/-- The board without views. -/
def empty (localNode : String) : Board := ⟨localNode, ∅⟩

/-- Sets the view of a resource. -/
def set (b : Board) (resource : String) (view : View) : Board :=
  { b with views := b.views.insert resource view }

/-- Removes the view of a resource. -/
def clear (b : Board) (resource : String) : Board :=
  { b with views := b.views.erase resource }

/-- The view of a resource. -/
def current (b : Board) (resource : String) : Option View :=
  b.views[resource]?

end Board

/-- The key under which a node publishes its state for a table of a resource. -/
def stateKey (resource table : String) : String :=
  "resource|" ++ resource ++ "|" ++ table

/-- A node of a cluster in which no other node is alive. -/
structure Peer where
  localNode : String
  /-- The texts that the node published, by key. -/
  published : ByName String
  /-- The tables that views of a resource include. -/
  watched : ByName (Std.ExtTreeSet String compare)
  /-- The last view of each resource. -/
  seen : ByName View

namespace Peer

/-- A node that has published nothing. -/
def empty (localNode : String) : Peer := ⟨localNode, ∅, ∅, ∅⟩

/-- The number of live nodes, which is the node itself. -/
def liveNodes (_ : Peer) : Nat := 1

/-- The tables of a resource that its views include. -/
def watchedTables (p : Peer) (resource : String) : Std.ExtTreeSet String compare :=
  p.watched[resource]?.getD ∅

/-- Includes a table in the views of a resource. -/
def watch (p : Peer) (resource table : String) : Peer :=
  { p with watched := p.watched.insert resource ((p.watchedTables resource).insert table) }

/-- Publishes the node's state for a table, and includes the table in the views. -/
def publish (p : Peer) (resource table : String) (state : NodeState) : Traced Peer := do
  let key := stateKey resource table
  Traced.report (.statePublished key state.text)
  pure ({ p with published := p.published.insert key state.text }.watch resource table)

/-- The states that the live nodes published for a table. -/
def states (p : Peer) (resource table : String) : Option NodeStates :=
  p.published[stateKey resource table]?.map fun text =>
    (∅ : NodeStates).insert p.localNode (NodeState.ofText text)

/-- The watched tables of a resource for which some node published a state. -/
def tables (p : Peer) (resource : String) : ByName NodeStates :=
  ByName.ofPairs ((p.watchedTables resource).toList.filterMap fun table =>
    (p.states resource table).map fun states => (table, states))

/-- The current view of a resource.

Its version is one for the first view, and one more than the last version whenever the tables
differ from those of the last view. -/
def current (p : Peer) (resource : String) : Traced (Peer × View) := do
  let tables := p.tables resource
  let last := p.seen[resource]?.getD (View.empty 0)
  if last.version = 0 ∨ last.tables ≠ tables then
    let view : View := ⟨last.version + 1, tables⟩
    Traced.report (.viewChanged resource view.version tables.size)
    pure ({ p with seen := p.seen.insert resource view }, view)
  else pure (p, last)

/-- The text of a node. -/
def describe (p : Peer) : String :=
  let sets := p.watched.toList.map fun (resource, tables) =>
    Text.quoted resource ++ ": \x7b" ++ ", ".intercalate (tables.toList.map Text.quoted) ++ "\x7d"
  Text.record "Cluster"
    [("node_id", Text.quoted p.localNode), ("watched", "\x7b" ++ ", ".intercalate sets ++ "\x7d")]

end Peer

/-- A source of cluster views. -/
inductive Membership where
  | board (b : Board)
  | peer (p : Peer)

namespace Membership

/-- The identifier of this node in the views. -/
def localNode : Membership → String
  | board b => b.localNode
  | peer p => p.localNode

/-- The current view of a resource, if there is one. -/
def current (m : Membership) (resource : String) : Traced (Membership × Option View) :=
  match m with
  | board b => pure (board b, b.current resource)
  | peer p => do
    let (p, view) ← p.current resource
    pure (peer p, some view)

/-- Tells the peers that this node serves a table; a board has none. -/
def publish (m : Membership) (resource table : String) (state : NodeState) : Traced Membership :=
  match m with
  | board b => pure (board b)
  | peer p => peer <$> p.publish resource table state

end Membership

end QuotaShare
