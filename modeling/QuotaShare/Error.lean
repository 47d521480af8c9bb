/-!
# Errors

What can go wrong outside the limiters, by cause, and the text of each.
-/

namespace QuotaShare

/-- What a manager cannot be made without. -/
inductive Collaborator where
  | localNode
  | configStore
  deriving DecidableEq, Repr

/-- The text of a collaborator in messages. -/
def Collaborator.text : Collaborator → String
  | localNode => "local node id"
  | configStore => "config store"

/-- Failures of the node that exchanges state with its peers. -/
inductive ClusterError where
  | start (reason : String)
  | shutdown (reason : String)
  deriving DecidableEq, Repr

/-- The text of a failure. -/
def ClusterError.message : ClusterError → String
  | start reason => "Failed to start cluster: " ++ reason
  | shutdown reason => "Failed to shut down cluster: " ++ reason

/-- Failures of the quota service. -/
inductive QuotaError where
  /-- A document that could not be read: what was being read, and why it failed. -/
  | config (context reason : String)
  /-- A look-up that failed, as opposed to finding nothing. -/
  | store (table reason : String)
  /-- A collaborator that was given more than once. -/
  | alreadyInitialized (what : Collaborator)
  /-- A collaborator that was not given. -/
  | missingCollaborator (what : Collaborator)
  /-- A notification of a kind that is not handled. -/
  | illegalChange (kind : String)
  | cluster (cause : ClusterError)
  | io (reason : String)
  deriving DecidableEq, Repr

namespace QuotaError

/-- The part of a message that does not depend on how a document was read. -/
def heading : QuotaError → String
  | config context _ => "Configuration error: " ++ context
  | store table reason => "Config store error for table " ++ table ++ ": " ++ reason
  | alreadyInitialized what => "Query quota manager is already initialized with a " ++ what.text
  | missingCollaborator what => "Query quota manager is missing a " ++ what.text
  | illegalChange kind => "Illegal change type: " ++ kind
  | cluster cause => "Cluster error: " ++ cause.message
  | io reason => "I/O error: " ++ reason

/-- The text of an error. -/
def message : QuotaError → String
  | config context reason => heading (config context reason) ++ reason
  | e => e.heading

end QuotaError

end QuotaShare
