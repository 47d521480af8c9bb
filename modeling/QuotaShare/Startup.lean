import QuotaShare.Manager.Builder
import QuotaShare.Manager.Watch

/-!
# Start-up

The sequence in which a node begins its work: it tells its peers which of the stored tables it
serves, asks once for a view, and starts to track each of the tables.
-/

namespace QuotaShare

/-- A node after its start, and for each stored table whether it is tracked. -/
structure Started where
  manager : Manager
  source : Membership
  tracked : List (String × Bool)

namespace Manager

/-- Tells the peers that the node serves the given tables. -/
def announce (source : Membership) (resource : String) (tables : List String) :
    Traced Membership :=
  tables.foldlM (fun source table => source.publish resource table .online) source

/-- Starts to track the given tables. -/
def initAll (m : Manager) (lookups : Lookups) (now : Nat) (view : Option View)
    (configs : List TableConfig) : Traced (Manager × List (String × Bool)) :=
  configs.foldlM (fun (m, tracked) config => do
    let (m, yes) ← m.init lookups now config view
    pure (m, tracked ++ [(config.table, yes)])) (m, [])

/-- The start of a node that serves the tables of a store. -/
def startUp (m : Manager) (store : Store) (lookups : Lookups) (now : Nat) (source : Membership)
    (resource : String) : Traced Started := do
  let source ← announce source resource store.names
  let (source, view) ← source.current resource
  let (m, tracked) ← m.initAll lookups now view store.configs
  pure ⟨m, source, tracked⟩

end Manager

end QuotaShare
