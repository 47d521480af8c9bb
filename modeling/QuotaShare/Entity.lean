import QuotaShare.HitCounter
import QuotaShare.Limiter
import QuotaShare.Decimal.Layout
import QuotaShare.Text.Quoted
import QuotaShare.Time

/-!
# Quota entities

What is kept for a tracked table: a limiter that runs at this node's share of the table's rate, a
counter of the queries, and the inputs from which the share was derived.
-/

namespace QuotaShare

/-- The inputs from which a node's share of a rate was derived. -/
@[ext]
structure Snapshot where
  /-- The online nodes that serve the table, this one included. -/
  nodes : Nat
  /-- The queries per second that the whole cluster may serve. -/
  overall : Float
  /-- The version of the quota from which the overall rate was read. -/
  version : UInt64
  one_le_nodes : 1 ≤ nodes
  deriving DecidableEq

namespace Snapshot

/-- A snapshot whose number of nodes is raised to at least one. -/
def ofInputs (nodes : Nat) (overall : Float) (version : UInt64) : Snapshot where
  nodes := max nodes 1
  overall
  version
  one_le_nodes := Nat.le_max_right nodes 1

/-- This node's share of the overall rate. -/
def share (s : Snapshot) : Float :=
  QuotaShare.share s.overall s.nodes

/-- The text of a snapshot. -/
def describe (s : Snapshot) : String :=
  Text.record "QuotaSnapshot"
    [("num_online_nodes", toString s.nodes),
      ("overall_rate", Decimal.Layout.detailed.float s.overall),
      ("config_version", "ConfigVersion(" ++ toString s.version ++ ")")]

end Snapshot

/-- The text of a limiter. -/
def Limiter.describe (l : Limiter Float) : String :=
  Text.record "TokenRateLimiter"
    [("rate", Decimal.Layout.detailed.float l.rate),
      ("max_burst_secs", Decimal.Layout.detailed.float l.burst)]

/-- The text of a hit counter. -/
def HitCounter.describe (c : HitCounter) : String :=
  Text.record "HitCounter" [("window", Time.describe c.window)]

/-- The limiter, the hit counter and the snapshot of a tracked table. -/
structure Entity where
  limiter : Limiter Float
  hits : HitCounter
  snapshot : Snapshot
  deriving DecidableEq

namespace Entity

/-- An entity made at `now`, whose limiter runs at the share of a snapshot. -/
def start (snapshot : Snapshot) (window : Nat) (burst : Float) (now : Nat) : Entity where
  limiter := Limiter.start snapshot.share burst now
  hits := HitCounter.start window now
  snapshot

/-- The text of an entity. -/
def describe (e : Entity) : String :=
  Text.record "QuotaEntity"
    [("rate", Decimal.Layout.detailed.float e.limiter.rate), ("snapshot", e.snapshot.describe)]

end Entity

end QuotaShare
