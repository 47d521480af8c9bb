import QuotaShare.ByName

/-!
# Cluster views

What is known, at one version of the cluster's state, about the nodes that serve each table.
-/

namespace QuotaShare

/-- The state in which a node serves a table. -/
inductive NodeState where
  | online
  | offline
  | error
  | dropped
  /-- A state without a meaning here. -/
  | other (text : String)
  deriving DecidableEq, Repr

namespace NodeState

/-- The text of a state. -/
def text : NodeState → String
  | online => "ONLINE"
  | offline => "OFFLINE"
  | error => "ERROR"
  | dropped => "DROPPED"
  | other text => text

/-- The state that a text stands for. -/
def ofText (text : String) : NodeState :=
  if text = "ONLINE" then online
  else if text = "OFFLINE" then offline
  else if text = "ERROR" then error
  else if text = "DROPPED" then dropped
  else other text

/-- Whether a node in this state serves the table. -/
def isOnline : NodeState → Bool
  | online => true
  | _ => false

end NodeState

/-- The states of the nodes that serve one table. -/
abbrev NodeStates := ByName NodeState

namespace NodeStates

/-- The number of online nodes besides `localNode`, which itself is always counted.

Without a map no other node is known to serve the table. -/
def onlineCount (states : Option NodeStates) (localNode : String) : Nat :=
  let others := (states.map Std.ExtTreeMap.toList).getD []
  (others.countP fun (node, state) => node != localNode && state.isOnline) + 1

end NodeStates

/-- The nodes that serve each table, at a version of the cluster's state. -/
structure View where
  version : UInt64
  tables : ByName NodeStates
  deriving DecidableEq

namespace View

/-- The view without tables. -/
def empty (version : UInt64) : View := ⟨version, ∅⟩

/-- The states of the nodes that serve a table, if the table is part of the view. -/
def states? (v : View) (table : String) : Option NodeStates :=
  v.tables[table]?

/-- The view in which a node has a given state for a table. -/
def setState (v : View) (table node : String) (state : NodeState) : View :=
  { v with tables := v.tables.insert table (((v.states? table).getD ∅).insert node state) }

/-- The number of online nodes that serve a table, `localNode` included. -/
def onlineCount (v : View) (table localNode : String) : Nat :=
  NodeStates.onlineCount (v.states? table) localNode

end View

end QuotaShare
