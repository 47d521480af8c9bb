import Std.Data.ExtTreeMap

/-!
# Values by name

Finite maps from names, in the order of the names.  Two of them are equal when they hold the same
value under every name.
-/

namespace QuotaShare

/-- A finite map from names. -/
abbrev ByName (α : Type) := Std.ExtTreeMap String α compare

namespace ByName

variable {α : Type}

instance [DecidableEq α] : DecidableEq (ByName α) :=
  inferInstanceAs (DecidableEq (Std.ExtTreeMap String α compare))

/-- The map of the given pairs; the last pair of a name counts. -/
def ofPairs (pairs : List (String × α)) : ByName α :=
  pairs.foldl (fun m (name, value) => m.insert name value) ∅

theorem getElem?_insert (m : ByName α) (name other : String) (value : α) :
  (m.insert name value)[other]? = if name = other then some value else m[other]?
  := by
  rw [Std.ExtTreeMap.getElem?_insert]
  simp only [Std.compare_eq_iff_eq]

theorem getElem?_erase (m : ByName α) (name other : String) :
  (m.erase name)[other]? = if name = other then none else m[other]?
  := by
  rw [Std.ExtTreeMap.getElem?_erase]
  simp only [Std.compare_eq_iff_eq]

theorem getElem?_foldl_insert_filterMap (m : ByName α) (names : List String)
    (value? : String → Option α) (name : String) :
  ((names.filterMap fun name => (value? name).map fun value => (name, value)).foldl
      (fun m (name, value) => m.insert name value) m)[name]? =
    if name ∈ names then (value? name).or m[name]? else m[name]?
  := by
  induction names generalizing m with
  | nil => rfl
  | cons first names ih =>
      rw [List.filterMap_cons]
      cases hvalue : value? first with
      | none =>
          apply (ih m).trans
          by_cases hname : first = name
          · subst hname
            rw [if_pos List.mem_cons_self, hvalue, Option.none_or, ite_self]
          · simp only [List.mem_cons, Ne.symm hname, false_or]
      | some value =>
          apply (ih (m.insert first value)).trans
          rw [getElem?_insert]
          by_cases hname : first = name
          · subst hname
            rw [if_pos rfl, if_pos List.mem_cons_self, hvalue, Option.some_or, ite_self]
            rfl
          · simp only [if_neg hname, List.mem_cons, Ne.symm hname, false_or]

/-- The map of some names with their values tells these values, and nothing of other names. -/
theorem getElem?_ofPairs_filterMap (names : List String) (value? : String → Option α)
    (name : String) :
  (ofPairs (names.filterMap fun name => (value? name).map fun value => (name, value)))[name]? =
    if name ∈ names then value? name else none
  := by
  rw [ofPairs, getElem?_foldl_insert_filterMap, Std.ExtTreeMap.getElem?_empty, Option.or_none]

end ByName

end QuotaShare
