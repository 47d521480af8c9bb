import QuotaShare.Manager.Admission
import QuotaShare.Startup

/-!
# Serving

A node that answers queries.  Before a query is answered, the view of the cluster is polled if a
poll is due.
-/

namespace QuotaShare

/-- A node at work. -/
structure Server where
  service : Service
  source : Membership
  resource : String
  /-- The nanoseconds between two polls. -/
  period : Nat
  /-- The instant of the next poll. -/
  nextPoll : Nat

namespace Server

/-- A node that has just started. -/
def start (service : Service) (source : Membership) (resource : String) (period now : Nat) :
    Traced Server := do
  let started ←
    service.manager.startUp service.store service.store.lookups now source resource
  pure ⟨{ service with manager := started.manager }, started.source, resource, period, now⟩

/-- Polls the view if a poll is due. -/
def poll (s : Server) (now : Nat) : Traced Server :=
  if s.nextPoll ≤ now then do
    let (source, view) ← s.source.current s.resource
    let (manager, outcome) ← s.service.manager.process s.service.store.lookups now view
    Traced.report (.changeProcessed outcome)
    pure { s with
      service := { s.service with manager }
      source
      nextPoll := now + Manager.pollPeriod s.period }
  else pure s

/-- Answers a query against a table. -/
def query (s : Server) (now : Nat) (table : String) : Traced (Server × Bool) := do
  let s ← s.poll now
  let a ← s.service.manager.acquire now table
  pure ({ s with service := { s.service with manager := a.manager } }, a.admitted)

end Server

end QuotaShare
