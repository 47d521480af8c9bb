import QuotaShare.Network.Address
import QuotaShare.Table.Quota
import QuotaShare.Time
import QuotaShare.Decimal.Layout
import QuotaShare.Text.Quoted

/-!
# Settings

The settings of a node: its identity, its exchange with its peers, the enforcement of quotas, and
the tables whose quotas it starts with.
-/

namespace QuotaShare

/-- The identity of a node. -/
structure NodeSettings where
  /-- The identifier of the node; without one an identifier is made up. -/
  nodeId : Option String
  /-- The resource whose view lists the nodes that serve each table. -/
  resource : String
  deriving DecidableEq, Repr

/-- The settings of a node's exchange with its peers. -/
structure GossipSettings where
  listen : SocketAddress
  /-- The address that peers are told; without one it is the address the node listens on. -/
  advertise : Option SocketAddress
  seeds : List String
  /-- The name of the cluster, on which all peers agree. -/
  clusterId : String
  intervalMillis : UInt64
  graceSecs : UInt64
  pollMillis : UInt64
  deriving DecidableEq, Repr

/-- The settings of the enforcement of quotas. -/
structure QuotaSettings where
  /-- The window of the hit counters, in milliseconds. -/
  windowMillis : UInt64
  /-- How many seconds' worth of tokens a limiter can bank. -/
  burst : Float
  /-- Changes of a rate that are not larger than this are not applied. -/
  epsilon : Float
  deriving DecidableEq

/-- A table's quota as it is written in a document. -/
structure TableEntry where
  table : String
  perSecond : Option String
  deriving DecidableEq, Repr

/-- The settings of a node. -/
structure Settings where
  node : NodeSettings
  gossip : GossipSettings
  quota : QuotaSettings
  tables : List TableEntry
  deriving DecidableEq

/-! ### Defaults -/

/-- A node without an identifier. -/
def NodeSettings.default : NodeSettings := ⟨none, "brokerResource"⟩

/-- The exchange on every interface of the machine, without seeds. -/
def GossipSettings.default : GossipSettings where
  listen := .v4 ⟨0, 0, 0, 0⟩ 7946
  advertise := none
  seeds := []
  clusterId := "tablequota"
  intervalMillis := 100
  graceSecs := 3600
  pollMillis := 1000

/-- A window and a burst of one second. -/
def QuotaSettings.default : QuotaSettings := ⟨1000, 1.0, 0.001⟩

/-- The settings without tables. -/
def Settings.default : Settings :=
  ⟨NodeSettings.default, GossipSettings.default, QuotaSettings.default, []⟩

/-! ### Derived values -/

/-- The time between two polls of the membership, at least a millisecond. -/
def GossipSettings.pollInterval (g : GossipSettings) : Nat :=
  Time.ofMillisAtLeastOne g.pollMillis.toNat

namespace QuotaSettings

/-- The window of the hit counters, at least a millisecond. -/
def window (q : QuotaSettings) : Nat :=
  Time.ofMillisAtLeastOne q.windowMillis.toNat

/-- The text of the settings. -/
def describe (q : QuotaSettings) : String :=
  Text.record "QuotaSettings"
    [("hit_counter_window_ms", toString q.windowMillis),
      ("max_burst_secs", Decimal.Layout.detailed.float q.burst),
      ("rate_change_epsilon", Decimal.Layout.detailed.float q.epsilon)]

end QuotaSettings

/-- The configuration of a table that an entry stands for. -/
def TableEntry.config (e : TableEntry) : TableConfig :=
  ⟨e.table, e.perSecond.map fun s => ⟨some s⟩⟩

/-- What a node needs to take part in a cluster. -/
structure ClusterSetup where
  /-- The identifier of the node, unless it is made up. -/
  nodeId : Option String
  listen : SocketAddress
  advertise : SocketAddress
  seeds : List String
  clusterId : String
  /-- The nanoseconds between two exchanges. -/
  interval : Nat
  /-- The nanoseconds after which the state of a dead node may be deleted. -/
  grace : Nat
  deriving DecidableEq, Repr

/-- The number of characters of an identifier that is made up. -/
def madeUpIdLength : Nat := 36

namespace Settings

/-- The part that a node takes in a cluster under a given identifier. -/
def clusterSetup (s : Settings) (nodeId : Option String) : ClusterSetup where
  nodeId
  listen := s.gossip.listen
  advertise := s.gossip.advertise.getD s.gossip.listen
  seeds := s.gossip.seeds
  clusterId := s.gossip.clusterId
  interval := Time.ofMillis s.gossip.intervalMillis.toNat
  grace := Time.ofSecs s.gossip.graceSecs.toNat

/-- The configurations of the tables, in the order of the document. -/
def tableConfigs (s : Settings) : List TableConfig :=
  s.tables.map TableEntry.config

end Settings

/-- The part that a node takes in a cluster unless it is told otherwise. -/
def ClusterSetup.default : ClusterSetup :=
  Settings.default.clusterSetup none

end QuotaShare
