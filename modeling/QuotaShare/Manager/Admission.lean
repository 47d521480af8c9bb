import QuotaShare.Manager.Basic

/-!
# Admission

The charging of queries.  A query against an unqualified name is charged to both variants of the
table, whatever either of them decides; a table that is not tracked admits every query.
-/

namespace QuotaShare

/-- The hits of a window in percent of a rate, cut to the whole numbers of a machine word. -/
def utilization (hits : Nat) (rate : Float) : Nat :=
  if 0.0 < rate then
    min ((Scalar.ofNat hits * 100.0 / rate).toUInt64.toNat) 9223372036854775807
  else 0

/-- The name of the gauge of utilization. -/
def Gauge.name : String := "query_quota_capacity_utilization_rate"

/-- The utilization of a table's quota. -/
structure Gauge where
  table : String
  percent : Nat
  deriving DecidableEq, Repr

/-- What a query does: the manager after it, whether it is admitted, and the gauges it sets. -/
structure Admission where
  manager : Manager
  admitted : Bool
  gauges : List Gauge

/-- The entity of a table after a query, and whether the limiter admits it. -/
def Entity.acquire (e : Entity) (now : Nat) : Bool × Entity :=
  let (admitted, limiter) := e.limiter.acquire now
  (admitted, { e with limiter, hits := e.hits.hit now })

namespace Manager

/-- Charges a query to one qualified table.

The limiter and the hit counter see the same instant, also where each of them reads the clock for
itself. -/
def acquireTable (m : Manager) (now : Nat) (table : String) : Traced Admission :=
  match m.entity? table with
  | none => pure ⟨m, true, []⟩
  | some e =>
    let (admitted, after) := e.acquire now
    let hits := after.hits.count now
    let gauges := match m.sink with
      | some _ => [⟨table, utilization hits e.limiter.rate⟩]
      | none => []
    let result : Admission :=
      ⟨{ m with registry := (m.registry.put table after).1 }, admitted, gauges⟩
    if admitted then pure result
    else do
      Traced.report (.quotaExceeded table e.limiter.rate hits)
      pure result

/-- Charges a query to every table of a list; it is admitted if each of them admits it.

All tables are charged at the instant `now`, although time may pass from one to the next. -/
def acquireAll (m : Manager) (now : Nat) (tables : List String) : Traced Admission :=
  tables.foldlM (fun (a : Admission) table => do
    let one ← a.manager.acquireTable now table
    pure ⟨one.manager, a.admitted && one.admitted, a.gauges ++ one.gauges⟩) ⟨m, true, []⟩

/-- Charges a query to the tables that a name stands for, both of them at the instant `now`. -/
def acquire (m : Manager) (now : Nat) (name : String) : Traced Admission :=
  m.acquireAll now (Target.resolve name).names

end Manager

end QuotaShare
