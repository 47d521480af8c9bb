/-!
# Table names

A table is served in an offline and in a realtime variant.  A qualified name ends in the suffix of
its variant; an unqualified name stands for both variants of a table.
-/

namespace QuotaShare

/-- The serving variants of a table. -/
inductive Variant where
  | offline
  | realtime
  deriving DecidableEq, Repr

namespace Variant

/-- The name of a variant. -/
def label : Variant → String
  | offline => "Offline"
  | realtime => "Realtime"

/-- The variant with a given name. -/
def ofLabel? (text : String) : Option Variant :=
  [offline, realtime].find? fun v => v.label == text

/-- The suffix that qualifies a table name with a variant. -/
def suffix : Variant → String
  | offline => "_OFFLINE"
  | realtime => "_REALTIME"

/-- The other variant. -/
def sibling : Variant → Variant
  | offline => realtime
  | realtime => offline

/-- Whether a name ends in the suffix of a variant. -/
def marks (v : Variant) (name : String) : Bool :=
  v.suffix.toList.isSuffixOf name.toList

/-- The variant whose suffix a name ends in. -/
def ofName? (name : String) : Option Variant :=
  [offline, realtime].find? fun v => v.marks name

/-- A name with the suffix of a variant, which is appended unless it is there already. -/
def qualify (v : Variant) (name : String) : String :=
  if v.marks name then name else name ++ v.suffix

theorem marks_iff {v : Variant} {name : String} :
  v.marks name = true ↔ v.suffix.toList <:+ name.toList
  := List.isSuffixOf_iff_suffix

/-- A name to which the suffix of a variant is appended ends in it. -/
theorem marks_append (v : Variant) (name : String) :
  v.marks (name ++ v.suffix) = true
  := by
  rw [marks_iff, String.toList_append]
  apply List.suffix_append

/-- No name ends in the suffixes of both variants. -/
theorem eq_of_marks {v w : Variant} {name : String} (hv : v.marks name = true)
    (hw : w.marks name = true) :
  v = w
  := by
  -- Of two suffixes of one name, one is a suffix of the other.
  have h : v.suffix.toList <:+ w.suffix.toList ∨ w.suffix.toList <:+ v.suffix.toList :=
    List.suffix_or_suffix_of_suffix (marks_iff.mp hv) (marks_iff.mp hw)
  have hne : ¬ (offline.suffix.toList <:+ realtime.suffix.toList ∨
      realtime.suffix.toList <:+ offline.suffix.toList) := by
    decide
  cases v with
  | offline =>
      cases w with
      | offline => rfl
      | realtime => cases hne h
  | realtime =>
      cases w with
      | offline => cases hne h.symm
      | realtime => rfl

theorem ofName?_eq_some_iff {v : Variant} {name : String} :
  ofName? name = some v ↔ v.marks name = true
  := by
  constructor
  · intro h
    rw [ofName?] at h
    apply List.find?_some h
  · intro h
    rw [ofName?]
    cases hfound : [offline, realtime].find? fun v => v.marks name with
    | none =>
        have hall := List.find?_eq_none.mp hfound v (by cases v <;> decide)
        cases hall h
    | some w =>
        have hw := List.find?_some (p := fun v : Variant => v.marks name) hfound
        rw [eq_of_marks hw h]

theorem ofName?_append (v : Variant) (raw : String) :
  ofName? (raw ++ v.suffix) = some v
  := ofName?_eq_some_iff.mpr (v.marks_append raw)

/-- A name that is qualified with a variant already stays as it is. -/
theorem qualify_of_eq {v : Variant} {name : String} (h : ofName? name = some v) :
  v.qualify name = name
  := if_pos (ofName?_eq_some_iff.mp h)

theorem qualify_of_ne {v : Variant} {name : String} (h : ofName? name ≠ some v) :
  v.qualify name = name ++ v.suffix
  := if_neg (mt ofName?_eq_some_iff.mpr h)

end Variant

/-- A table name without the suffix of its variant. -/
def rawName (name : String) : String :=
  match Variant.ofName? name with
  | some v => String.ofList (name.toList.take (name.length - v.suffix.length))
  | none => name

/-- The qualified name of the other variant of a table, for a qualified name. -/
def siblingName? (name : String) : Option String :=
  (Variant.ofName? name).map fun v => v.sibling.qualify (rawName name)

/-- The tables that a query against a name concerns. -/
inductive Target where
  /-- The offline variant alone. -/
  | offline (name : String)
  /-- The realtime variant alone. -/
  | realtime (name : String)
  /-- Both variants. -/
  | both (offline realtime : String)
  deriving DecidableEq, Repr

namespace Target

/-- The tables that a possibly unqualified name stands for. -/
def resolve (name : String) : Target :=
  match Variant.ofName? name with
  | some .offline => offline name
  | some .realtime => realtime name
  | none => both (Variant.offline.qualify name) (Variant.realtime.qualify name)

/-- The qualified names of the tables, the offline variant first. -/
def names : Target → List String
  | offline name => [name]
  | realtime name => [name]
  | both off real => [off, real]

/-- A qualified name stands for itself alone. -/
theorem names_resolve {name : String} (h : (Variant.ofName? name).isSome = true) :
  (resolve name).names = [name]
  := by
  obtain ⟨variant, h⟩ := Option.isSome_iff_exists.mp h
  rw [resolve, h]
  cases variant <;> rfl

/-- An unqualified name stands for its two variants. -/
theorem names_resolve_of_unqualified {name : String} (h : Variant.ofName? name = none) :
  (resolve name).names = [name ++ "_OFFLINE", name ++ "_REALTIME"]
  := by
  have hqualify (v : Variant) : v.qualify name = name ++ v.suffix := by
    apply Variant.qualify_of_ne
    rw [h]
    apply (Option.some_ne_none v).symm
  rw [resolve, h]
  simp only [names, hqualify]
  rfl

/-- The two variants of a table have different names. -/
theorem append_offline_ne_append_realtime (name : String) :
  name ++ "_OFFLINE" ≠ name ++ "_REALTIME"
  := by
  intro h
  have hmarks := Variant.marks_append .realtime name
  change Variant.realtime.marks (name ++ "_REALTIME") = true at hmarks
  rw [← h] at hmarks
  cases Variant.eq_of_marks hmarks (Variant.marks_append .offline name)

/-- No table is named twice. -/
theorem nodup_names_resolve (name : String) :
  (resolve name).names.Nodup
  := by
  cases h : Variant.ofName? name with
  | none =>
      rw [names_resolve_of_unqualified h, List.nodup_cons, List.mem_singleton]
      constructor
      · apply append_offline_ne_append_realtime
      · apply List.pairwise_singleton
  | some variant =>
      rw [names_resolve (Option.isSome_of_eq_some h)]
      apply List.pairwise_singleton

end Target

end QuotaShare
