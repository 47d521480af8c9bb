import QuotaShare.Manager.Registration

/-!
# Passes

The rates of the tracked tables are derived anew when the cluster view changes.  Each table is
looked at on its own: it may keep its rate, get a new one, or no longer be tracked.
-/

namespace QuotaShare

/-- What a pass decides about a tracked table. -/
inductive Verdict where
  /-- The table is tracked on, with its limiter as it was. -/
  | keep (e : Entity)
  /-- The table is tracked on, and its limiter has a new rate. -/
  | rebuild (e : Entity)
  /-- The table is no longer tracked. -/
  | evict

namespace Manager

/-- The overall rate that is stored for a table; a look-up that fails finds nothing. -/
def storedRate (lookups : Lookups) (table : String) : Traced (Option Float) :=
  match lookups.quota table with
  | .ok quota => pure (quota.bind Quota.rate?)
  | .error e => do
    Traced.report (.quotaUnread table e)
    pure none

/-- The overall rate of a table at a version: it is read again only when the version is new. -/
def overallAt (lookups : Lookups) (table : String) (previous : Snapshot) (version : UInt64) :
    Traced (Option Float) :=
  if version = previous.version then pure (some previous.overall)
  else storedRate lookups table

/-- The inputs of a table's rate under a view, unless the table has to be evicted. -/
def latest? (m : Manager) (lookups : Lookups) (view : View) (table : String)
    (previous : Snapshot) : Traced (Option Snapshot) :=
  match view.states? table with
  | none => do
    Traced.report (.tableNotInView table)
    pure none
  | some states => do
    let nodes := NodeStates.onlineCount (some states) m.localNode
    let version ← storedVersion lookups table
    match version with
    | none => do
      Traced.report (.tableNotStored table)
      pure none
    | some version => do
      let overall ← overallAt lookups table previous version
      match overall with
      | none => do
        Traced.report (.quotaLost table)
        pure none
      | some overall => pure (some (Snapshot.ofInputs nodes overall version))

/-- Whether two rates differ by more than the settings tolerate. -/
def differs (m : Manager) (rate previous : Float) : Bool :=
  decide (m.settings.epsilon < (rate - previous).abs)

/-- What becomes of an entity when the inputs of its rate are those of `latest`.

A rate that differs too little is not applied, but its inputs are remembered. -/
def adopt (m : Manager) (now : Nat) (table : String) (e : Entity) (latest : Snapshot) :
    Traced Verdict :=
  if latest.nodes = e.snapshot.nodes ∧ latest.overall == e.snapshot.overall then do
    Traced.report (.tableUnchanged table)
    pure (.keep (if latest.version = e.snapshot.version then e else { e with snapshot := latest }))
  else if m.differs latest.share e.limiter.rate then do
    Traced.report
      (.rateChanged table latest.overall e.limiter.rate latest.share latest.nodes)
    pure (.rebuild { e with limiter := e.limiter.setRate latest.share now, snapshot := latest })
  else pure (.keep { e with snapshot := latest })

/-- What a pass over a view decides about a tracked table. -/
def reconsider (m : Manager) (lookups : Lookups) (view : View) (now : Nat) (table : String)
    (e : Entity) : Traced Verdict := do
  let latest ← m.latest? lookups view table e.snapshot
  match latest with
  | none => pure .evict
  | some latest => m.adopt now table e latest

/-- A pass on the way: the tables as they are now, and the counts so far. -/
structure Progress where
  registry : Registry Entity
  rebuilt : Nat
  evicted : Nat

/-- Carries out a verdict on a table that was listed with the entity `listed`.

The table is evicted only if it is still registered as it was listed, and is counted only then. -/
def Progress.apply (p : Progress) (table : String) (listed : Entity) : Verdict → Progress
  | .keep e => { p with registry := (p.registry.put table e).1 }
  | .rebuild e => { p with registry := (p.registry.put table e).1, rebuilt := p.rebuilt + 1 }
  | .evict =>
    let (registry, removed) := p.registry.removeIfSame table listed
    { p with registry, evicted := if removed then p.evicted + 1 else p.evicted }

/-- Looks at the given tables one after the other.

The whole pass happens at the instant `now`, although time may pass from one table to the next where
each limiter reads the clock for itself. -/
def sweep (m : Manager) (lookups : Lookups) (view : View) (now : Nat)
    (entries : List (String × Entity)) : Traced Progress :=
  entries.foldlM (fun p (table, e) => do
    let verdict ← m.reconsider lookups view now table e
    pure (p.apply table e verdict)) ⟨m.registry, 0, 0⟩

/-- A pass over all tracked tables, unless it was already made for the version of the view.

Like its way through the tables, the whole pass happens at the instant `now`. -/
def process (m : Manager) (lookups : Lookups) (now : Nat) (view : Option View) :
    Traced (Manager × Outcome) := do
  Traced.report .passStarted
  match view with
  | none => do
    Traced.report .passWithoutView
    pure (m, .noView)
  | some view =>
    if m.lastVersion = some view.version then do
      Traced.report (.passUnchanged view.version)
      pure (m, .unchanged view.version)
    else do
      let p ← m.sweep lookups view now m.registry.toList
      let report : Report := ⟨view.version, p.rebuilt, p.evicted, p.registry.size⟩
      Traced.report (.passFinished report)
      pure ({ m with registry := p.registry, lastVersion := some view.version },
        .processed report)

end Manager

end QuotaShare
