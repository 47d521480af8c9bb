import QuotaShare.ByName
import QuotaShare.Entity

/-!
# Registry

The tracked tables.  A registry is a map from names; what it holds may also be a handle on entities
that are kept elsewhere, so that one entity can be registered under several names.
-/

namespace QuotaShare

/-- What is registered for each tracked table. -/
structure Registry (ε : Type) where
  entries : ByName ε

namespace Registry

variable {ε : Type}

/-- The registry without tables. -/
def empty : Registry ε := ⟨∅⟩

/-- What is registered for a table. -/
def get? (r : Registry ε) (table : String) : Option ε :=
  r.entries[table]?

/-- Registers a table; the answer is what it replaces. -/
def put (r : Registry ε) (table : String) (e : ε) : Registry ε × Option ε :=
  (⟨r.entries.insert table e⟩, r.get? table)

/-- Removes a table; the answer is what was registered for it. -/
def remove (r : Registry ε) (table : String) : Registry ε × Option ε :=
  (⟨r.entries.erase table⟩, r.get? table)

/-- Removes a table if `expected` is still what is registered for it. -/
def removeIfSame [DecidableEq ε] (r : Registry ε) (table : String) (expected : ε) :
    Registry ε × Bool :=
  if r.get? table = some expected then ((r.remove table).1, true) else (r, false)

/-- The number of tracked tables. -/
def size (r : Registry ε) : Nat :=
  r.entries.size

/-- The tracked tables in the order of their names. -/
def toList (r : Registry ε) : List (String × ε) :=
  r.entries.toList

theorem get?_empty (table : String) :
  (empty : Registry ε).get? table = none
  := Std.ExtTreeMap.getElem?_empty

theorem get?_put (r : Registry ε) (table other : String) (e : ε) :
  (r.put table e).1.get? other = if table = other then some e else r.get? other
  := ByName.getElem?_insert ..

theorem get?_remove (r : Registry ε) (table other : String) :
  (r.remove table).1.get? other = if table = other then none else r.get? other
  := ByName.getElem?_erase ..

/-- A table is removed exactly if it is registered as expected. -/
theorem removeIfSame_snd [DecidableEq ε] (r : Registry ε) (table : String) (expected : ε) :
  (r.removeIfSame table expected).2 = decide (r.get? table = some expected)
  := by
  rw [removeIfSame]
  split
  · rename_i h
    rw [decide_eq_true h]
  · rename_i h
    rw [decide_eq_false h]

/-- What is registered as expected is removed, and all else is left. -/
theorem get?_removeIfSame [DecidableEq ε] (r : Registry ε) (table other : String) (expected : ε) :
  (r.removeIfSame table expected).1.get? other =
    if table = other then (r.get? table).filter fun found => found ≠ expected else r.get? other
  := by
  rw [removeIfSame]
  by_cases hother : table = other
  · subst hother
    rw [if_pos rfl]
    cases hfound : r.get? table with
    | none =>
        rw [if_neg nofun]
        apply hfound
    | some found =>
        by_cases hsame : found = expected
        · rw [hsame, if_pos rfl, get?_remove, if_pos rfl, Option.filter_some_neg]
          simp
        · rw [if_neg, hfound, Option.filter_some_pos]
          · apply decide_eq_true hsame
          · rwa [Option.some.injEq]
  · rw [if_neg hother]
    split
    · rw [get?_remove, if_neg hother]
    · rfl

/-- Registries that hold the same for every table are equal. -/
theorem ext_get? {r r' : Registry ε} (h : ∀ table, r.get? table = r'.get? table) :
  r = r'
  := by
  obtain ⟨entries⟩ := r
  obtain ⟨entries'⟩ := r'
  congr 1
  apply Std.ExtTreeMap.ext_getElem?
  apply h

/-- Registering a table with what is registered for it already changes nothing. -/
theorem put_of_get? {r : Registry ε} {table : String} {e : ε} (h : r.get? table = some e) :
  (r.put table e).1 = r
  := by
  apply ext_get?
  intro other
  rw [get?_put]
  split
  · rename_i hother
    rw [← hother, h]
  · rfl

theorem mem_toList {r : Registry ε} {table : String} {e : ε} :
  (table, e) ∈ r.toList ↔ r.get? table = some e
  := Std.ExtTreeMap.mem_toList_iff_getElem?_eq_some

/-- No table is listed twice. -/
theorem pairwise_toList (r : Registry ε) :
  r.toList.Pairwise fun a b => a.1 ≠ b.1
  := by
  apply List.Pairwise.imp _ (Std.ExtTreeMap.distinct_keys_toList (t := r.entries))
  intro a b h heq
  apply h (Std.compare_eq_iff_eq.mpr heq)

end Registry

/-- Entities that can be registered under any number of names, by their order of creation. -/
structure Pool where
  entities : Array Entity
  registry : Registry Nat

namespace Pool

/-- The pool without entities. -/
def empty : Pool := ⟨#[], Registry.empty⟩

/-- Adds an entity, which is not registered yet. -/
def add (p : Pool) (e : Entity) : Pool :=
  { p with entities := p.entities.push e }

/-- Changes the entity with a given number. -/
def modify (p : Pool) (id : Nat) (f : Entity → Entity) : Pool :=
  { p with entities := p.entities.modify id f }

end Pool

end QuotaShare
