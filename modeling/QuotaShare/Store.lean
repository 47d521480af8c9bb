import QuotaShare.ByName
import QuotaShare.Event

/-!
# Quota store

A store of table quotas in which every write is stamped with a version of its own.  A look-up
through the store's answers may find a quota, find nothing, or fail.
-/

namespace QuotaShare

/-- A quota as it was written. -/
structure StoredQuota where
  quota : Option Quota
  version : UInt64
  deriving DecidableEq, Repr

/-- The quotas of the stored tables, and the version of the next write. -/
structure Store where
  records : ByName StoredQuota
  next : UInt64
  deriving DecidableEq

namespace Store

/-- The store without tables. -/
def empty : Store := ⟨∅, 0⟩

/-- Writes the quota of a table; the answer is the version of the write. -/
def set (s : Store) (table : String) (quota : Option Quota) : Traced (Store × UInt64) := do
  Traced.report (.quotaStored table s.next)
  pure (⟨s.records.insert table ⟨quota, s.next⟩, s.next + 1⟩, s.next)

/-- Writes the configuration of a table. -/
def put (s : Store) (config : TableConfig) : Traced (Store × UInt64) :=
  s.set config.table config.quota

/-- Deletes a table; the answer tells whether it was stored. -/
def delete (s : Store) (table : String) : Store × Bool :=
  ({ s with records := s.records.erase table }, s.records.contains table)

/-- The store after the given configurations were written in order. -/
def ofConfigs (configs : List TableConfig) : Store :=
  configs.foldl (fun s config => (s.put config).value.1) empty

/-- The names of the stored tables, in order. -/
def names (s : Store) : List String :=
  s.records.keys

/-- The quota of a table, if the table is stored with one. -/
def quota? (s : Store) (table : String) : Option Quota :=
  s.records[table]?.bind StoredQuota.quota

/-- The version of the last write of a stored table. -/
def version? (s : Store) (table : String) : Option UInt64 :=
  s.records[table]?.map StoredQuota.version

/-- The configuration of a stored table. -/
def config? (s : Store) (table : String) : Option TableConfig :=
  s.records[table]?.map fun r => ⟨table, r.quota⟩

/-- The configurations of the stored tables, in the order of their names. -/
def configs (s : Store) : List TableConfig :=
  s.records.toList.map fun (table, r) => ⟨table, r.quota⟩

end Store

/-- Answers to questions about stored quotas. -/
structure Lookups where
  /-- The quota of a table, if it has one. -/
  quota : String → Except QuotaError (Option Quota)
  /-- The version of a table's quota, if the table is stored. -/
  version : String → Except QuotaError (Option UInt64)

/-- The answers of a store, which never fail. -/
def Store.lookups (s : Store) : Lookups where
  quota table := .ok (s.quota? table)
  version table := .ok (s.version? table)

/-- The two questions. -/
inductive Question where
  | quota
  | version
  deriving DecidableEq, Repr

/-- The same answers, but one question about one table fails. -/
def Lookups.failing (l : Lookups) (q : Question) (table reason : String) : Lookups :=
  match q with
  | .quota =>
    { l with quota := fun t => if t = table then .error (.store table reason) else l.quota t }
  | .version =>
    { l with version := fun t => if t = table then .error (.store table reason) else l.version t }

end QuotaShare
