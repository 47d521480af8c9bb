import QuotaShare.Cluster.View
import QuotaShare.Manager.Basic
import QuotaShare.Store

/-!
# Registration

The start of tracking a table.  A table is tracked when its quota is a rate, a view is at hand, and
the store tells the version of its quota; otherwise it is left as it was.
-/

namespace QuotaShare.Manager

/-- The version of a stored quota; a look-up that fails finds nothing. -/
def storedVersion (lookups : Lookups) (table : String) : Traced (Option UInt64) :=
  match lookups.version table with
  | .ok version => pure version
  | .error e => do
    Traced.report (.versionUnread table e)
    pure none

/-- The quota of the other variant of a table; a look-up that fails finds nothing. -/
def siblingQuota (lookups : Lookups) (sibling : String) : Traced (Option Quota) :=
  match lookups.quota sibling with
  | .ok quota => pure quota
  | .error e => do
    Traced.report (.siblingUnread sibling e)
    pure none

/-- Reports two variants of a table with different quotas, which is allowed but most likely a
mistake. -/
def compareVariants (lookups : Lookups) (config : TableConfig) : Traced Unit :=
  match Variant.ofName? config.table, config.quota.bind Quota.raw? with
  | some variant, some own => do
    let raw := rawName config.table
    let quota ← siblingQuota lookups (variant.sibling.qualify raw)
    match quota.bind Quota.raw? with
    | some other =>
      if other ≠ own then Traced.report (.siblingDiffers raw own other variant)
      else pure ()
    | none => pure ()
  | _, _ => pure ()

/-- The snapshot of a table that can be tracked. -/
def register? (m : Manager) (lookups : Lookups) (config : TableConfig) (view : Option View) :
    Traced (Option Snapshot) :=
  let table := config.table
  match config.quota.filter fun q => q.raw?.isSome, view with
  | none, _ => do
    Traced.report (.noQuota table)
    pure none
  | some _, none => do
    Traced.report (.noViewForTable table)
    pure none
  | some quota, some view => do
    let nodes := view.onlineCount table m.localNode
    Traced.report (.nodesCounted table nodes)
    match quota.rate? with
    | none => do
      Traced.report (.quotaInvalid table quota.perSecond)
      pure none
    | some overall => do
      let version ← storedVersion lookups table
      match version with
      | none => do
        Traced.report (.noStoredVersion table)
        pure none
      | some version => pure (some (Snapshot.ofInputs nodes overall version))

/-- Starts to track a table under its configuration; the answer tells whether it is tracked now. -/
def init (m : Manager) (lookups : Lookups) (now : Nat) (config : TableConfig)
    (view : Option View) : Traced (Manager × Bool) := do
  Traced.report (.initializing config.table)
  compareVariants lookups config
  let snapshot ← m.register? lookups config view
  match snapshot with
  | none => pure (m, false)
  | some s => do
    let entity := Entity.start s m.settings.window m.settings.burst now
    Traced.report (.initialized config.table s.overall s.share s.nodes s.version)
    pure ({ m with registry := (m.registry.put config.table entity).1 }, true)

end QuotaShare.Manager
