import QuotaShare.Document.Format
import QuotaShare.Settings

/-!
# Settings in documents

The records in which settings and quotas are written, for documents of every format.  A field that
a record does not have takes its default; only the name of a table has none.
-/

namespace QuotaShare

variable {δ : Type} (f : Format δ)

/-- The quota that a document stands for. -/
def Quota.ofDocument? (d : δ) : Option Quota := do
  let fields ← f.record? ["max_queries_per_second"] d
  let perSecond ← field? fields "max_queries_per_second" (some none) (f.optionalOf? f.text?)
  some { perSecond }

/-- The table and the quota that a document stands for. -/
def TableConfig.ofDocument? (d : δ) : Option TableConfig := do
  let fields ← f.record? ["table_name", "quota"] d
  let table ← field? fields "table_name" none f.text?
  let quota ← field? fields "quota" (some none) (f.optionalOf? (Quota.ofDocument? f))
  some { table, quota }

/-- The entry of a list of tables that a document stands for. -/
def TableEntry.ofDocument? (d : δ) : Option TableEntry := do
  let fields ← f.record? ["table", "max_queries_per_second"] d
  let table ← field? fields "table" none f.text?
  let perSecond ← field? fields "max_queries_per_second" (some none) (f.optionalOf? f.text?)
  some { table, perSecond }

/-- The identity of a node that a document stands for. -/
def NodeSettings.ofDocument? (d : δ) : Option NodeSettings := do
  let fields ← f.record? ["node_id", "broker_resource"] d
  let nodeId ← field? fields "node_id" (some default.nodeId) (f.optionalOf? f.text?)
  let resource ← field? fields "broker_resource" (some default.resource) f.text?
  some { nodeId, resource }

/-- The names of the settings of a node's exchange with its peers. -/
def GossipSettings.fieldNames : List String :=
  ["listen_addr", "advertise_addr", "seed_nodes", "cluster_id", "gossip_interval_ms",
    "dead_node_grace_period_secs", "membership_poll_interval_ms"]

/-- The settings of a node's exchange with its peers that a document stands for. -/
def GossipSettings.ofDocument? (d : δ) : Option GossipSettings := do
  let fields ← f.record? fieldNames d
  let listen ← field? fields "listen_addr" (some default.listen) f.address?
  let advertise ←
    field? fields "advertise_addr" (some default.advertise) (f.optionalOf? f.address?)
  let seeds ← field? fields "seed_nodes" (some default.seeds) (f.listOf? f.text?)
  let clusterId ← field? fields "cluster_id" (some default.clusterId) f.text?
  let intervalMillis ← field? fields "gossip_interval_ms" (some default.intervalMillis) f.word?
  let graceSecs ← field? fields "dead_node_grace_period_secs" (some default.graceSecs) f.word?
  let pollMillis ← field? fields "membership_poll_interval_ms" (some default.pollMillis) f.word?
  some { listen, advertise, seeds, clusterId, intervalMillis, graceSecs, pollMillis }

/-- The settings of the enforcement of quotas that a document stands for. -/
def QuotaSettings.ofDocument? (d : δ) : Option QuotaSettings := do
  let fields ←
    f.record? ["hit_counter_window_ms", "max_burst_secs", "rate_change_epsilon"] d
  let windowMillis ← field? fields "hit_counter_window_ms" (some default.windowMillis) f.word?
  let burst ← field? fields "max_burst_secs" (some default.burst) f.real?
  let epsilon ← field? fields "rate_change_epsilon" (some default.epsilon) f.real?
  some { windowMillis, burst, epsilon }

/-- The tables that a document lists under the field for them. -/
def tableEntries? (fields : ByName δ) : Option (List TableEntry) :=
  field? fields "tables" (some []) (f.listOf? (TableEntry.ofDocument? f))

/-- The settings of a node that a document stands for. -/
def Settings.ofDocument? (d : δ) : Option Settings := do
  let fields ← f.record? ["node", "cluster", "quota", "tables"] d
  let node ← field? fields "node" (some default.node) (NodeSettings.ofDocument? f)
  let gossip ← field? fields "cluster" (some default.gossip) (GossipSettings.ofDocument? f)
  let quota ← field? fields "quota" (some default.quota) (QuotaSettings.ofDocument? f)
  let tables ← tableEntries? f fields
  some { node, gossip, quota, tables }

/-- The tables that a document lists, whatever else it holds. -/
def TableEntry.listOfDocument? (d : δ) : Option (List TableEntry) := do
  tableEntries? f (← f.record? ["tables"] d)

end QuotaShare
