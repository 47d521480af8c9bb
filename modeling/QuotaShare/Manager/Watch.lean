import QuotaShare.Cluster.Membership
import QuotaShare.Manager.Pass

/-!
# Watching

Passes are made when the cluster tells of a change, or whenever a view is polled.
-/

namespace QuotaShare

/-- The kinds of changes that a cluster tells of. -/
inductive Change where
  /-- The assignment of tables to nodes, as it is observed. -/
  | externalView
  /-- The assignment of tables to nodes, as it is desired. -/
  | idealState
  /-- The record of a live node. -/
  | liveInstance
  deriving DecidableEq, Repr

/-- The name of a kind of change. -/
def Change.label : Change → String
  | externalView => "ExternalView"
  | idealState => "IdealState"
  | liveInstance => "LiveInstance"

namespace Manager

/-- What follows a change: the manager, the source of views, and what became of its view. -/
structure Reaction where
  manager : Manager
  source : Membership
  outcome : Outcome

/-- A pass against the current view of a resource; only observed changes are handled. -/
def onChange (m : Manager) (lookups : Lookups) (now : Nat) (source : Membership)
    (resource : String) (change : Change) : Except QuotaError (Traced Reaction) :=
  if change = .externalView then
    .ok do
      let (source, view) ← source.current resource
      let (manager, outcome) ← m.process lookups now view
      pure ⟨manager, source, outcome⟩
  else .error (.illegalChange change.label)

/-- The nanoseconds between two polls, raised to at least a millisecond. -/
def pollPeriod (period : Nat) : Nat :=
  max period (Time.ofMillis 1)

/-- The longest time until the next poll: thirty years. -/
def longestWait : Nat := Time.ofSecs 946080000

/-- The milliseconds since the start at which the given number of polls happen.

The first happens at once, and each at the end of the millisecond in which it is due. -/
def pollTimes (period polls : Nat) : List Nat :=
  let wait := min (pollPeriod period) longestWait
  (List.range polls).map fun i => (i * wait + 999999) / 1000000

/-- Polls the given views of a resource one after the other, and makes a pass for each. -/
def poll (m : Manager) (lookups : Lookups) (now : Nat) (resource : String) (period : Nat)
    (views : List (Option View)) : Traced Manager := do
  Traced.report (.pollingStarted resource (pollPeriod period / 1000000).toUInt64)
  let m ← views.foldlM (fun (m : Manager) view => do
    let (m, outcome) ← m.process lookups now view
    Traced.report (.changeProcessed outcome)
    pure m) m
  Traced.report (.pollingStopped resource)
  pure m

/-- The text of a manager that watches a resource. -/
def describeWatching (m : Manager) (resource : String) : String :=
  Text.record "QuotaChangeHandler"
    [("resource", Text.quoted resource), ("manager", m.describe)]

end Manager

end QuotaShare
