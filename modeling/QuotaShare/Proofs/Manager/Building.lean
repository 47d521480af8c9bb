import Mathlib.Data.List.Induction
import Mathlib.Data.List.Nodup
import Mathlib.Tactic.Tauto
import Mathlib.Tactic.Use
import QuotaShare.Manager.Builder

/-!
# Building a manager

A manager is built exactly if the identifier of its node and its store were each given once.  If one
of them was given again, the one whose second time came first is told, whatever was given after that
and even if the other one is missing; otherwise the identifier is missed before the store.  Sinks and
settings may be given at any time and as often as one likes: the last ones count.
-/

namespace QuotaShare.Builder

/-! ### Parts -/

/-- Something that is given for a manager. -/
inductive Part where
  | localNode (node : String)
  | store (store : Store)
  | sink (sink : Sink)
  | settings (settings : QuotaSettings)

namespace Part

/-- The identifier that a part is. -/
def localNode? : Part → Option String
  | .localNode node => some node
  | _ => none

/-- The store that a part is. -/
def store? : Part → Option Store
  | .store value => some value
  | _ => none

/-- The sink that a part is. -/
def sink? : Part → Option Sink
  | .sink value => some value
  | _ => none

/-- The settings that a part is. -/
def settings? : Part → Option QuotaSettings
  | .settings value => some value
  | _ => none

/-- What a part is, if a manager cannot be made without it. -/
def collaborator? : Part → Option Collaborator
  | localNode _ => some .localNode
  | store _ => some .configStore
  | _ => none

end Part

/-- The builder that was given one more part. -/
def give (b : Builder) : Part → Builder
  | .localNode node => b.withLocalNode node
  | .store store => b.withStore store
  | .sink sink => b.withSink sink
  | .settings settings => b.withSettings settings

/-- The builder that was given some parts, one after the other. -/
def ofParts (parts : List Part) : Builder :=
  parts.foldl give empty

/-- The collaborators among some parts. -/
def collaborators (parts : List Part) : List Collaborator :=
  parts.filterMap Part.collaborator?

/-- Collaborators are counted by the values that were given for them. -/
theorem count_collaborators {α : Type} {what : Collaborator} {value? : Part → Option α}
    (h : ∀ part, part.collaborator? = some what ↔ (value? part).isSome = true)
    (parts : List Part) :
  (collaborators parts).count what = (parts.filterMap value?).length
  := by
  rw [collaborators, List.count_filterMap, List.length_filterMap_eq_countP]
  apply List.countP_congr
  intro part _
  rw [beq_iff_eq]
  apply h

theorem count_localNode (parts : List Part) :
  (collaborators parts).count .localNode = (parts.filterMap Part.localNode?).length
  := by
  apply count_collaborators
  rintro (_ | _ | _ | _) <;> simp [Part.collaborator?, Part.localNode?]

theorem count_configStore (parts : List Part) :
  (collaborators parts).count .configStore = (parts.filterMap Part.store?).length
  := by
  apply count_collaborators
  rintro (_ | _ | _ | _) <;> simp [Part.collaborator?, Part.store?]

/-- No collaborator was given again exactly if there is at most one value for each. -/
theorem nodup_collaborators_iff {parts : List Part} :
  (collaborators parts).Nodup ↔
    (parts.filterMap Part.localNode?).length ≤ 1 ∧ (parts.filterMap Part.store?).length ≤ 1
  := by
  rw [List.nodup_iff_count_le_one, ← count_localNode, ← count_configStore]
  constructor
  · intro h
    use h .localNode, h .configStore
  · rintro ⟨hnode, hstore⟩ (_ | _)
    · apply hnode
    · apply hstore

/-! ### The first repetition -/

/-- Whether a collaborator is the one whose second time comes first: before that time each
collaborator was given at most once, and this one was. -/
def IsFirstRepeated (what : Collaborator) (given : List Collaborator) : Prop :=
  ∃ before after, given = before ++ what :: after ∧ before.Nodup ∧ what ∈ before

variable {given : List Collaborator} {what other : Collaborator}

theorem not_isFirstRepeated_nil :
  ¬ IsFirstRepeated what []
  := by
  rintro ⟨before, after, h, _⟩
  cases List.append_ne_nil_of_right_ne_nil _ (List.cons_ne_nil _ _) h.symm

/-- What is given last is repeated first if it was given before and nothing was repeated so far. -/
theorem isFirstRepeated_concat :
  IsFirstRepeated other (given ++ [what]) ↔
    IsFirstRepeated other given ∨ (given.Nodup ∧ what ∈ given ∧ what = other)
  := by
  constructor
  · rintro ⟨before, after, hgiven, hnodup, hmem⟩
    obtain rfl | ⟨after, last, rfl⟩ := List.eq_nil_or_concat after
    · obtain ⟨rfl, hlast⟩ := List.append_inj' hgiven rfl
      cases hlast
      exact Or.inr ⟨hnodup, hmem, rfl⟩
    · rw [List.concat_eq_append, ← List.cons_append, ← List.append_assoc] at hgiven
      obtain ⟨rfl, _⟩ := List.append_inj' hgiven rfl
      exact Or.inl ⟨before, after, rfl, hnodup, hmem⟩
  · rintro (⟨before, after, rfl, hnodup, hmem⟩ | ⟨hnodup, hmem, rfl⟩)
    · use before, after ++ [what]
      rw [List.append_assoc]
      exact ⟨rfl, hnodup, hmem⟩
    · exact ⟨given, [], rfl, hnodup, hmem⟩

/-- Something is repeated first exactly if something is repeated. -/
theorem exists_isFirstRepeated_iff :
  (∃ what, IsFirstRepeated what given) ↔ ¬ given.Nodup
  := by
  induction given using List.reverseRecOn with
  | nil =>
      apply iff_of_false
      · rintro ⟨what, h⟩
        exact not_isFirstRepeated_nil h
      · exact not_not_intro List.nodup_nil
  | append_singleton given what ih =>
      have hconcat : (∃ other, IsFirstRepeated other (given ++ [what])) ↔
          (∃ other, IsFirstRepeated other given) ∨ (given.Nodup ∧ what ∈ given) := by
        simp only [isFirstRepeated_concat, exists_or, exists_and_left, exists_eq', and_true]
      rw [hconcat, ih, ← List.concat_eq_append, List.nodup_concat]
      tauto

/-! ### One part -/

/-- Whether a builder is what some parts leave: it holds the last value of each kind, and the
collaborator that was repeated first. -/
structure Holds (parts : List Part) (b : Builder) : Prop where
  localNode : b.localNode = (parts.filterMap Part.localNode?).getLast?
  store : b.store = (parts.filterMap Part.store?).getLast?
  sink : b.sink = (parts.filterMap Part.sink?).getLast?
  settings : b.settings =
    (parts.filterMap Part.settings?).getLast?.getD QuotaSettings.default
  repeated : ∀ what, b.repeated = some what ↔ IsFirstRepeated what (collaborators parts)

variable {parts : List Part} {b : Builder}

theorem holds_empty :
  Holds [] empty
  := by
  constructor
  · rfl
  · rfl
  · rfl
  · rfl
  · intro what
    exact iff_of_false nofun not_isFirstRepeated_nil

theorem noteAgain_eq_some_iff {again : Bool} :
  b.noteAgain again what = some other ↔
    b.repeated = some other ∨ (b.repeated = none ∧ again = true ∧ what = other)
  := by
  rw [noteAgain]
  cases b.repeated with
  | none => cases again <;> simp
  | some first => cases again <;> simp

theorem Holds.repeated_eq_none_iff (h : Holds parts b) :
  b.repeated = none ↔ (collaborators parts).Nodup
  := by
  rw [← not_iff_not, ← exists_isFirstRepeated_iff, ← ne_eq, Option.ne_none_iff_exists']
  apply exists_congr h.repeated

/-- A builder that remembers whether something is given again knows what is repeated first. -/
theorem Holds.noteAgain_iff (h : Holds parts b) {again : Bool}
    (hagain : again = true ↔ 0 < (collaborators parts).count what) :
  b.noteAgain again what = some other ↔ IsFirstRepeated other (collaborators parts ++ [what])
  := by
  rw [noteAgain_eq_some_iff, isFirstRepeated_concat, h.repeated, h.repeated_eq_none_iff, hagain,
    List.count_pos_iff]

/-- The last value among some parts and one more is that of the one more, if it has one. -/
theorem getLast?_filterMap_concat {α : Type} (value? : Part → Option α) (parts : List Part)
    (part : Part) :
  ((parts ++ [part]).filterMap value?).getLast? =
    (value? part).or (parts.filterMap value?).getLast?
  := by
  rw [List.filterMap_append, List.getLast?_append]
  cases h : value? part with
  | none => rw [List.filterMap_cons_none h, List.filterMap_nil, List.getLast?_nil]
  | some value => rw [List.filterMap_cons_some h, List.filterMap_nil, List.getLast?_singleton]

/-- A builder that holds what some parts leave holds what they leave together with one more. -/
theorem Holds.give (h : Holds parts b) (part : Part) :
  Holds (parts ++ [part]) (b.give part)
  := by
  have hcollaborators : collaborators (parts ++ [part]) =
      collaborators parts ++ [part].filterMap Part.collaborator? := List.filterMap_append
  constructor
  · rw [getLast?_filterMap_concat, ← h.localNode]
    cases part <;> rfl
  · rw [getLast?_filterMap_concat, ← h.store]
    cases part <;> rfl
  · rw [getLast?_filterMap_concat, ← h.sink]
    cases part <;> rfl
  · rw [getLast?_filterMap_concat]
    cases part with
    | settings settings => rfl
    | localNode node => apply h.settings
    | store store => apply h.settings
    | sink sink => apply h.settings
  · intro what
    rw [hcollaborators]
    cases part with
    | localNode node =>
        apply h.noteAgain_iff
        rw [h.localNode, List.getLast?_isSome, count_localNode, List.length_pos_iff]
    | store store =>
        apply h.noteAgain_iff
        rw [h.store, List.getLast?_isSome, count_configStore, List.length_pos_iff]
    -- Sinks and settings are no collaborators and can be given again.
    | sink sink =>
        rw [List.filterMap_cons_none rfl, List.filterMap_nil, List.append_nil]
        apply h.repeated
    | settings settings =>
        rw [List.filterMap_cons_none rfl, List.filterMap_nil, List.append_nil]
        apply h.repeated

/-! ### All parts -/

theorem Holds.giveAll (h : Holds parts b) (later : List Part) :
  Holds (parts ++ later) (later.foldl Builder.give b)
  := by
  induction later generalizing parts b with
  | nil =>
      rw [List.append_nil]
      apply h
  | cons part later ih =>
      have hlater := ih (h.give part)
      rw [List.append_assoc] at hlater
      apply hlater

theorem holds_ofParts (parts : List Part) :
  Holds parts (ofParts parts)
  := holds_empty.giveAll parts

/-! ### The outcome -/

theorem build_eq_ok_iff {service : Service} :
  b.build = .ok service ↔ b.repeated = none ∧ ∃ node store, b.localNode = some node ∧
    b.store = some store ∧ service = ⟨Manager.start node b.sink b.settings, store⟩
  := by
  rw [build]
  split <;> simp_all [eq_comm]

theorem build_eq_alreadyInitialized_iff :
  b.build = .error (.alreadyInitialized what) ↔ b.repeated = some what
  := by
  rw [build]
  split <;> simp_all

theorem build_eq_missing_localNode_iff :
  b.build = .error (.missingCollaborator .localNode) ↔ b.repeated = none ∧ b.localNode = none
  := by
  rw [build]
  split <;> simp_all

theorem build_eq_missing_configStore_iff :
  b.build = .error (.missingCollaborator .configStore) ↔
    b.repeated = none ∧ b.localNode.isSome = true ∧ b.store = none
  := by
  rw [build]
  split <;> simp_all

/-- A value is the only one exactly if it is the last of at most one. -/
theorem eq_singleton_iff {α : Type} {values : List α} {value : α} :
  values = [value] ↔ values.length ≤ 1 ∧ values.getLast? = some value
  := by
  match values with
  | [] => simp
  | [first] => simp
  | first :: second :: later => simp

end QuotaShare.Builder

namespace QuotaShare

open Builder

/-- Whatever was given for a manager, and in whatever order: it is built exactly if one identifier of
the node and one store were given, with these, the last sink and the last settings.  It is refused
for something that was given again exactly if there is more than one identifier or more than one
store, and the reason is then the collaborator whose second time came first.  Otherwise a missing
identifier is the reason, and a missing store only where there is an identifier. -/
theorem built_iff_given_once (parts : List Part) :
  (∀ service, (ofParts parts).build = .ok service ↔ ∃ node store,
    parts.filterMap Part.localNode? = [node] ∧ parts.filterMap Part.store? = [store] ∧
    service = ⟨Manager.start node (parts.filterMap Part.sink?).getLast?
      ((parts.filterMap Part.settings?).getLast?.getD QuotaSettings.default), store⟩) ∧
  ((∃ what, (ofParts parts).build = .error (.alreadyInitialized what)) ↔
    1 < (parts.filterMap Part.localNode?).length ∨ 1 < (parts.filterMap Part.store?).length) ∧
  (∀ what, (ofParts parts).build = .error (.alreadyInitialized what) ↔
    IsFirstRepeated what (collaborators parts)) ∧
  ((ofParts parts).build = .error (.missingCollaborator .localNode) ↔
    parts.filterMap Part.localNode? = [] ∧ (parts.filterMap Part.store?).length ≤ 1) ∧
  ((ofParts parts).build = .error (.missingCollaborator .configStore) ↔
    (parts.filterMap Part.localNode?).length = 1 ∧ parts.filterMap Part.store? = [])
  := by
  have h := holds_ofParts parts
  have hnone := h.repeated_eq_none_iff.trans nodup_collaborators_iff
  refine ⟨?_, ?_, ?_, ?_, ?_⟩
  · intro service
    rw [build_eq_ok_iff, hnone, h.localNode, h.store, h.sink, h.settings]
    simp only [eq_singleton_iff]
    constructor
    · rintro ⟨⟨hnodes, hstores⟩, node, store, hnode, hstore, hservice⟩
      exact ⟨node, store, ⟨hnodes, hnode⟩, ⟨hstores, hstore⟩, hservice⟩
    · rintro ⟨node, store, ⟨hnodes, hnode⟩, ⟨hstores, hstore⟩, hservice⟩
      exact ⟨⟨hnodes, hstores⟩, node, store, hnode, hstore, hservice⟩
  · simp only [build_eq_alreadyInitialized_iff]
    rw [← Option.ne_none_iff_exists', ne_eq, hnone]
    omega
  · intro what
    rw [build_eq_alreadyInitialized_iff]
    apply h.repeated
  · rw [build_eq_missing_localNode_iff, hnone, h.localNode, List.getLast?_eq_none_iff]
    constructor
    · rintro ⟨⟨_, hstores⟩, hnodes⟩
      exact ⟨hnodes, hstores⟩
    · rintro ⟨hnodes, hstores⟩
      rw [hnodes]
      exact ⟨⟨Nat.zero_le 1, hstores⟩, rfl⟩
  · rw [build_eq_missing_configStore_iff, hnone, h.localNode, h.store, List.getLast?_isSome,
      List.getLast?_eq_none_iff, ← List.length_pos_iff]
    constructor
    · rintro ⟨⟨hnodes, _⟩, hnode, hstores⟩
      exact ⟨Nat.le_antisymm hnodes hnode, hstores⟩
    · rintro ⟨hnodes, hstores⟩
      rw [hnodes, hstores]
      exact ⟨⟨Nat.le_refl 1, Nat.zero_le 1⟩, Nat.one_pos, rfl⟩

example :
  (ofParts [.sink .tables, .store Store.empty, .localNode "a", .store Store.empty, .localNode "b",
    .localNode "c"]).build = .error (.alreadyInitialized .configStore)
  := rfl

end QuotaShare
