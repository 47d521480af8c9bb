import QuotaShare.Registry
import QuotaShare.Settings
import QuotaShare.Event

/-!
# Manager

The state from which one node enforces table quotas: the tracked tables and the version of the last
view that they were derived from.
-/

namespace QuotaShare

/-- Where gauges go. -/
inductive Sink where
  /-- A sink that keeps whole numbers by table. -/
  | tables
  /-- A sink that keeps real numbers by label. -/
  | labels
  deriving DecidableEq, Repr

/-- The enforcement of table quotas on one node. -/
structure Manager where
  /-- The identifier of this node in cluster views. -/
  localNode : String
  sink : Option Sink
  settings : QuotaSettings
  registry : Registry Entity
  /-- The version of the view that the last pass ran against. -/
  lastVersion : Option UInt64

namespace Manager

/-- A manager that tracks no table yet. -/
def start (localNode : String) (sink : Option Sink) (settings : QuotaSettings) : Manager :=
  ⟨localNode, sink, settings, Registry.empty, none⟩

/-- What is kept for a table. -/
def entity? (m : Manager) (table : String) : Option Entity :=
  m.registry.get? table

/-- The number of tracked tables. -/
def size (m : Manager) : Nat :=
  m.registry.size

/-- The inputs of a table's rate, if the table is tracked. -/
def snapshot? (m : Manager) (table : String) : Option Snapshot :=
  (m.entity? table).map Entity.snapshot

/-- The rate of a table's limiter, if the table is tracked. -/
def rate? (m : Manager) (table : String) : Option Float :=
  (m.entity? table).map fun e => e.limiter.rate

/-- Stops tracking a table. -/
def drop (m : Manager) (table : String) : Traced Manager := do
  Traced.report (.dropping table)
  pure { m with registry := (m.registry.remove table).1 }

/-- Stops tracking every table. -/
def clear (m : Manager) : Manager :=
  { m with registry := Registry.empty }

/-- The text of a manager. -/
def describe (m : Manager) : String :=
  Text.record "QueryQuotaManager"
    [("local_node_id", Text.quoted m.localNode), ("settings", m.settings.describe),
      ("registry_size", toString m.size)]

end Manager

end QuotaShare
