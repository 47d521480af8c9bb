import QuotaShare.Manager.Basic
import QuotaShare.Store

/-!
# Builder

The assembly of a manager and its store.  The identifier of the node and the store have to be given
exactly once; of the sinks and the settings the last ones count.
-/

namespace QuotaShare

/-- A manager with the store that it reads quotas from. -/
structure Service where
  manager : Manager
  store : Store

/-- What was given for a manager so far. -/
structure Builder where
  localNode : Option String
  store : Option Store
  sink : Option Sink
  settings : QuotaSettings
  /-- The first collaborator that was given a second time. -/
  repeated : Option Collaborator

namespace Builder

/-- Nothing was given yet. -/
def empty : Builder := ⟨none, none, none, QuotaSettings.default, none⟩

/-- Remembers a collaborator that is given again, unless another one was before it. -/
def noteAgain (b : Builder) (given : Bool) (what : Collaborator) : Option Collaborator :=
  if given then b.repeated <|> some what else b.repeated

/-- Gives the identifier of the node. -/
def withLocalNode (b : Builder) (node : String) : Builder :=
  { b with
    localNode := some node
    repeated := b.noteAgain b.localNode.isSome .localNode }

/-- Gives the store. -/
def withStore (b : Builder) (store : Store) : Builder :=
  { b with
    store := some store
    repeated := b.noteAgain b.store.isSome .configStore }

/-- Gives a sink of gauges. -/
def withSink (b : Builder) (sink : Sink) : Builder :=
  { b with sink := some sink }

/-- Gives the settings. -/
def withSettings (b : Builder) (settings : QuotaSettings) : Builder :=
  { b with settings }

/-- The manager and its store, if everything was given that is needed and nothing twice. -/
def build (b : Builder) : Except QuotaError Service :=
  match b.repeated, b.localNode, b.store with
  | some what, _, _ => .error (.alreadyInitialized what)
  | none, none, _ => .error (.missingCollaborator .localNode)
  | none, some _, none => .error (.missingCollaborator .configStore)
  | none, some node, some store => .ok ⟨Manager.start node b.sink b.settings, store⟩

end Builder

end QuotaShare
