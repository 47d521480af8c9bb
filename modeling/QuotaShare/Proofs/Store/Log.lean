import Mathlib.Tactic.Use
import QuotaShare.Store

/-!
# The log of a store

What a store answers is told by the log of what was done to it: a look-up finds what the last entry
about the table says, and a deletion finds a table whose last entry is a write.  The writes are
numbered one after the other, whatever tables they are about, so no version comes again, also not
when a table is deleted and written anew.
-/

namespace QuotaShare.Store

/-! ### Logs -/

/-- Something that is done to a store. -/
inductive Edit where
  /-- The quota of a table is written. -/
  | set (table : String) (quota : Option Quota)
  /-- The configuration of a table is written. -/
  | put (config : TableConfig)
  /-- A table is deleted. -/
  | delete (table : String)

/-- Whether something that is done to a store is a write. -/
def Edit.isWrite : Edit → Bool
  | delete _ => false
  | _ => true

/-- Something that was done to a store, with the answer. -/
inductive Entry where
  /-- The quota of a table was written; the answer was the version of the write. -/
  | written (table : String) (quota : Option Quota) (version : UInt64)
  /-- A table was deleted; the answer told whether it was stored. -/
  | deleted (table : String) (stored : Bool)
  deriving DecidableEq, Repr

namespace Entry

/-- The table that an entry is about. -/
def table : Entry → String
  | written table _ _ => table
  | deleted table _ => table

/-- What an entry says is stored for its table. -/
def record? : Entry → Option StoredQuota
  | written _ quota version => some ⟨quota, version⟩
  | deleted .. => none

theorem isSome_record?_iff {entry : Entry} :
  entry.record?.isSome = true ↔ ∃ quota version, entry = written entry.table quota version
  := by
  cases entry with
  | written table quota version => exact iff_of_true rfl ⟨quota, version, rfl⟩
  | deleted table stored =>
      apply iff_of_false Bool.false_ne_true
      rintro ⟨_, _, h⟩
      cases h

end Entry

/-- The last entry about a table. -/
def last? (log : List Entry) (table : String) : Option Entry :=
  log.reverse.find? fun entry => entry.table = table

/-- What a log says is stored for a table. -/
def told? (log : List Entry) (table : String) : Option StoredQuota :=
  (last? log table).bind Entry.record?

/-- The versions that writes were answered with, in order. -/
def versions (log : List Entry) : List UInt64 :=
  log.filterMap fun entry => entry.record?.map StoredQuota.version

theorem told?_concat (log : List Entry) (entry : Entry) (table : String) :
  told? (log ++ [entry]) table = if entry.table = table then entry.record? else told? log table
  := by
  rw [told?, last?, List.reverse_concat, List.find?_cons]
  split
  · rename_i h
    rw [if_pos (of_decide_eq_true h)]
    rfl
  · rename_i h
    rw [if_neg (of_decide_eq_false h)]
    rfl

/-- A log says that something is stored for a table if its last entry about the table is a write. -/
theorem isSome_told?_iff {log : List Entry} {table : String} :
  (told? log table).isSome = true ↔
    ∃ quota version, last? log table = some (.written table quota version)
  := by
  rw [told?]
  cases hlast : last? log table with
  | none => simp
  | some entry =>
      obtain rfl : entry.table = table :=
        of_decide_eq_true (List.find?_some (p := fun entry : Entry => entry.table = table) hlast)
      simp only [Option.bind_some, Option.some.injEq]
      apply Entry.isSome_record?_iff

/-! ### One step -/

/-- A store after something was done to it, and the entry about it. -/
def perform (s : Store) : Edit → Store × Entry
  | .set table quota =>
    let (s, version) := (s.set table quota).value
    (s, .written table quota version)
  | .put config =>
    let (s, version) := (s.put config).value
    (s, .written config.table config.quota version)
  | .delete table =>
    let (s, stored) := s.delete table
    (s, .deleted table stored)

/-- Whether a store is the one that a log tells of: it holds what the log says is stored, and its
writes are numbered from zero. -/
structure Told (log : List Entry) (s : Store) : Prop where
  records : ∀ table : String, s.records[table]? = told? log table
  numbered : versions log = (List.range (versions log).length).map Nat.toUInt64
  next : s.next = (versions log).length.toUInt64

/-- The empty log tells of the store without tables. -/
theorem told_empty :
  Told [] empty
  := by
  constructor
  · intro table
    apply Std.ExtTreeMap.getElem?_empty
  · rfl
  · rfl

/-- What a write leaves is what its entry tells of. -/
theorem Told.set {log : List Entry} {s : Store} (h : Told log s) (table : String)
    (quota : Option Quota) :
  Told (log ++ [.written table quota s.next]) (s.set table quota).value.1
  := by
  have hversions : versions (log ++ [.written table quota s.next]) = versions log ++ [s.next] :=
    List.filterMap_append
  constructor
  · intro other
    rw [told?_concat, ← h.records]
    apply ByName.getElem?_insert
  · rw [hversions, List.length_append, List.length_singleton, List.range_succ, List.map_append,
      ← h.numbered, h.next]
    rfl
  · rw [hversions, List.length_append, List.length_singleton]
    change s.next + 1 = _
    rw [h.next]
    apply (UInt64.ofNat_add _ 1).symm

/-- So is what a deletion leaves. -/
theorem Told.delete {log : List Entry} {s : Store} (h : Told log s) (table : String)
    (stored : Bool) :
  Told (log ++ [.deleted table stored]) (s.delete table).1
  := by
  have hversions : versions (log ++ [.deleted table stored]) = versions log :=
    List.filterMap_append.trans (List.append_nil _)
  constructor
  · intro other
    rw [told?_concat, ← h.records]
    apply ByName.getElem?_erase
  · rw [hversions]
    apply h.numbered
  · rw [hversions]
    apply h.next

theorem Told.perform {log : List Entry} {s : Store} (h : Told log s) (edit : Edit) :
  Told (log ++ [(s.perform edit).2]) (s.perform edit).1
  := by
  cases edit with
  | set table quota => apply h.set
  | put config => apply h.set
  | delete table => apply h.delete

/-- A deletion is answered by whether something is stored. -/
theorem Told.delete_eq_true_iff {log : List Entry} {s : Store} (h : Told log s) (table : String) :
  (s.delete table).2 = true ↔
    ∃ quota version, last? log table = some (.written table quota version)
  := by
  rw [← isSome_told?_iff, ← h.records, ← Std.ExtTreeMap.contains_eq_isSome_getElem?]
  rfl

/-! ### Runs -/

/-- A store after things were done to it one after the other, and the log of them. -/
def performAll (s : Store) : List Edit → Store × List Entry
  | [] => (s, [])
  | edit :: later =>
    let (s, entry) := s.perform edit
    let (s, log) := s.performAll later
    (s, entry :: log)

/-- The log goes on telling of the store, whatever is done to it. -/
theorem Told.performAll {log : List Entry} {s : Store} (h : Told log s) (edits : List Edit) :
  Told (log ++ (s.performAll edits).2) (s.performAll edits).1
  := by
  induction edits generalizing log s with
  | nil =>
      rw [Store.performAll, List.append_nil]
      apply h
  | cons edit edits ih =>
      have hlater := ih (h.perform edit)
      rw [List.append_assoc] at hlater
      apply hlater

/-- Each deletion in the log is answered by what the log before it says. -/
theorem Told.deleted_iff {past : List Entry} {s : Store} (h : Told past s) {edits : List Edit}
    {before after : List Entry} {table : String} {stored : Bool}
    (hlog : (s.performAll edits).2 = before ++ .deleted table stored :: after) :
  stored = true ↔ ∃ quota version,
    last? (past ++ before) table = some (.written table quota version)
  := by
  induction edits generalizing past s before with
  | nil => cases (List.append_ne_nil_of_right_ne_nil _ (List.cons_ne_nil _ _) hlog.symm)
  | cons edit edits ih =>
      cases before with
      | nil =>
          obtain ⟨hentry, _⟩ := List.cons.inj hlog
          cases edit with
          | set table quota => cases hentry
          | put config => cases hentry
          | delete table =>
              cases hentry
              rw [List.append_nil]
              apply h.delete_eq_true_iff
      | cons entry before =>
          obtain ⟨rfl, hlater⟩ := List.cons.inj hlog
          rw [ih (h.perform edit) hlater, List.append_assoc]
          rfl

/-- There is a version for each write. -/
theorem length_versions (s : Store) (edits : List Edit) :
  (versions (s.performAll edits).2).length = edits.countP Edit.isWrite
  := by
  induction edits generalizing s with
  | nil => rfl
  | cons edit edits ih =>
      rw [List.countP_cons, ← ih (s.perform edit).1]
      cases edit with
      | set table quota => rfl
      | put config => rfl
      | delete table => rfl

/-- Numbers of writes that are words are different words. -/
theorem Told.pairwise_versions {log : List Entry} {s : Store} (h : Told log s)
    (hlength : (versions log).length < 18446744073709551616) :
  (versions log).Pairwise (· < ·)
  := by
  rw [h.numbered, List.pairwise_map]
  apply List.Pairwise.imp_of_mem _ List.pairwise_lt_range
  intro i j hi hj hij
  rw [List.mem_range] at hi hj
  rw [UInt64.lt_iff_toNat_lt]
  change i % 18446744073709551616 < j % 18446744073709551616
  omega

/-! ### Names -/

/-- The stored tables are listed in order, and none of them twice. -/
theorem pairwise_names (s : Store) :
  s.names.Pairwise (· < ·)
  := by
  apply List.Pairwise.imp _ Std.ExtTreeMap.ordered_keys
  intro a b h
  apply compareOfLessAndEq_eq_lt.mp h

theorem mem_names_iff {s : Store} {table : String} :
  table ∈ s.names ↔ s.records[table]?.isSome = true
  := Std.ExtTreeMap.mem_keys.trans Std.ExtTreeMap.mem_iff_isSome_getElem?

/-! ### Configurations written in order -/

/-- Configurations written in order are writes like others. -/
theorem foldl_put_eq_performAll (s : Store) (configs : List TableConfig) :
  configs.foldl (fun s config => (s.put config).value.1) s =
    (s.performAll (configs.map Edit.put)).1
  := by
  induction configs generalizing s with
  | nil => rfl
  | cons config configs ih => apply ih

theorem next_ofConfigs (configs : List TableConfig) :
  (ofConfigs configs).next = configs.length.toUInt64
  := by
  rw [ofConfigs, foldl_put_eq_performAll, (told_empty.performAll _).next, List.nil_append,
    length_versions, List.countP_map, List.countP_eq_length.mpr]
  intro config _
  rfl

/-- Configurations of other tables leave what is stored for a table. -/
theorem records_foldl_put {configs : List TableConfig} {table : String}
    (h : ∀ config ∈ configs, config.table ≠ table) (s : Store) :
  (configs.foldl (fun s config => (s.put config).value.1) s).records[table]? = s.records[table]?
  := by
  induction configs generalizing s with
  | nil => rfl
  | cons config configs ih =>
      rw [List.foldl_cons, ih fun later hlater => h later (List.mem_cons_of_mem _ hlater)]
      apply (ByName.getElem?_insert ..).trans
      rw [if_neg (h config List.mem_cons_self)]

/-- Of the configurations of a table the last one is stored, with its position as the version. -/
theorem records_ofConfigs (before : List TableConfig) {after : List TableConfig}
    {config : TableConfig} (hafter : ∀ later ∈ after, later.table ≠ config.table) :
  (ofConfigs (before ++ config :: after)).records[config.table]? =
    some ⟨config.quota, before.length.toUInt64⟩
  := by
  rw [ofConfigs, List.foldl_append, List.foldl_cons, records_foldl_put hafter]
  apply (ByName.getElem?_insert ..).trans
  rw [if_pos rfl]
  change some (StoredQuota.mk config.quota (ofConfigs before).next) = _
  rw [next_ofConfigs]

theorem mem_names_put {s : Store} {config : TableConfig} {table : String} :
  table ∈ (s.put config).value.1.names ↔ config.table = table ∨ table ∈ s.names
  := by
  rw [mem_names_iff, mem_names_iff]
  change (s.records.insert config.table ⟨config.quota, s.next⟩)[table]?.isSome = true ↔ _
  rw [ByName.getElem?_insert]
  split
  · rename_i h
    exact iff_of_true rfl (Or.inl h)
  · rename_i h
    rw [or_iff_right h]

/-- The stored tables are those before and those of the configurations that were written. -/
theorem mem_names_foldl_put {configs : List TableConfig} {s : Store} {table : String} :
  table ∈ (configs.foldl (fun s config => (s.put config).value.1) s).names ↔
    (∃ config ∈ configs, config.table = table) ∨ table ∈ s.names
  := by
  induction configs generalizing s with
  | nil => simp
  | cons config configs ih =>
      rw [List.foldl_cons, ih, mem_names_put, ← or_assoc]
      simp [or_comm]

theorem mem_names_ofConfigs_iff {configs : List TableConfig} {table : String} :
  table ∈ (ofConfigs configs).names ↔ ∃ config ∈ configs, config.table = table
  := by
  rw [ofConfigs, mem_names_foldl_put, or_iff_left_iff_imp, mem_names_iff, empty,
    Std.ExtTreeMap.getElem?_empty]
  nofun

end QuotaShare.Store

namespace QuotaShare

open Store

/-- The answers of a store are those that the log of what was done to it tells, for every sequence of
fewer than two to the power of 64 writes and any number of deletions.  The versions that the writes
are answered with increase strictly, whatever tables they are about; a deletion finds a table exactly
if the last entry about it is a write; look-ups find what the last entry about a table says, which is
nothing after a deletion; and the names are those of the tables whose last entry is a write, in
strict order.  In particular, of configurations that are written in order the last one of each table
is found, with its position as the version, and no other table is. -/
theorem answers_told {edits : List Edit}
    (hwrites : edits.countP Edit.isWrite < 18446744073709551616) {s : Store} {log : List Entry}
    (hrun : empty.performAll edits = (s, log)) :
  (versions log).Pairwise (· < ·) ∧
  (∀ before table stored after, log = before ++ .deleted table stored :: after →
    (stored = true ↔ ∃ quota version,
      last? before table = some (.written table quota version))) ∧
  (∀ table, s.lookups.quota table = .ok ((told? log table).bind StoredQuota.quota) ∧
    s.lookups.version table = .ok ((told? log table).map StoredQuota.version) ∧
    s.config? table = (told? log table).map fun r => ⟨table, r.quota⟩) ∧
  s.names.Pairwise (· < ·) ∧
  (∀ table, table ∈ s.names ↔ ∃ quota version,
    last? log table = some (.written table quota version)) ∧
  (∀ before config after, (before ++ config :: after).length < 18446744073709551616 →
    (∀ later ∈ after, later.table ≠ config.table) →
    (ofConfigs (before ++ config :: after)).config? config.table = some config ∧
      ((ofConfigs (before ++ config :: after)).version? config.table).map UInt64.toNat =
        some before.length) ∧
  ∀ configs table, (∀ config ∈ configs, config.table ≠ table) →
    (ofConfigs configs).config? table = none
  := by
  have htold : Told log s := by
    have h := told_empty.performAll edits
    rw [hrun] at h
    apply h
  have hlength : (versions log).length < 18446744073709551616 := by
    have h := length_versions empty edits
    rw [hrun] at h
    rw [h]
    apply hwrites
  refine ⟨htold.pairwise_versions hlength, ?_, ?_, s.pairwise_names, ?_, ?_, ?_⟩
  · intro before table stored after hlog
    have hperform : (empty.performAll edits).2 = before ++ .deleted table stored :: after := by
      rw [hrun]
      apply hlog
    apply told_empty.deleted_iff hperform
  · intro table
    have hrecords := htold.records table
    refine ⟨?_, ?_, ?_⟩
    · rw [← hrecords]
      rfl
    · rw [← hrecords]
      rfl
    · rw [← hrecords]
      rfl
  · intro table
    rw [mem_names_iff, htold.records, isSome_told?_iff]
  · intro before config after hlength hafter
    have hrecords := records_ofConfigs before hafter
    constructor
    · rw [config?, hrecords]
      rfl
    · rw [version?, hrecords]
      rw [List.length_append] at hlength
      apply congrArg some
      apply Nat.mod_eq_of_lt
      omega
  · intro configs table hconfigs
    rw [config?, ofConfigs, records_foldl_put hconfigs]
    apply congrArg (Option.map _) Std.ExtTreeMap.getElem?_empty

/-- A table that is written, deleted twice and written again without a quota, and a list of
configurations with two of one table. -/
theorem answers_told_after_deletion :
  let quota (rate : String) : Option Quota := some ⟨some rate⟩
  let edits : List Edit := [.set "a" (quota "10"), .put ⟨"b", quota "20"⟩, .delete "a", .delete "a",
    .set "a" none]
  let log : List Entry := [.written "a" (quota "10") 0, .written "b" (quota "20") 1,
    .deleted "a" true, .deleted "a" false, .written "a" none 2]
  let stored := ofConfigs [⟨"a", quota "10"⟩, ⟨"b", quota "20"⟩, ⟨"a", quota "30"⟩]
  edits.countP Edit.isWrite < 18446744073709551616 ∧
    ∃ s, empty.performAll edits = (s, log) ∧ (versions log).Pairwise (· < ·) ∧
      (false = true ↔ ∃ quota version,
        last? (log.take 3) "a" = some (.written "a" quota version)) ∧
      s.lookups.quota "a" = .ok none ∧ s.lookups.version "a" = .ok (some 2) ∧
      s.config? "b" = some ⟨"b", quota "20"⟩ ∧ "a" ∈ s.names ∧
      stored.config? "a" = some ⟨"a", quota "30"⟩ ∧
      (stored.version? "a").map UInt64.toNat = some 2 ∧ stored.config? "c" = none
  := by
  intro quota edits log stored
  have hwrites : edits.countP Edit.isWrite < 18446744073709551616 := by decide
  have hlog : (empty.performAll edits).2 = log := by decide +kernel
  have hrun : empty.performAll edits = ((empty.performAll edits).1, log) := Prod.ext rfl hlog
  obtain ⟨hversions, hdeleted, hlookups, _, hnames, hlast, habsent⟩ := answers_told hwrites hrun
  refine ⟨hwrites, _, hrun, hversions, ?_, ?_, ?_, ?_, ?_, ?_, ?_, ?_⟩
  · apply hdeleted (log.take 3) "a" false (log.drop 4) rfl
  · rw [(hlookups "a").1]
    apply congrArg Except.ok
    decide +kernel
  · rw [(hlookups "a").2.1]
    apply congrArg Except.ok
    decide +kernel
  · rw [(hlookups "b").2.2]
    decide +kernel
  · apply (hnames "a").mpr
    use none, 2
    decide +kernel
  · apply (hlast [⟨"a", quota "10"⟩, ⟨"b", quota "20"⟩] ⟨"a", quota "30"⟩ [] (by decide)
      (by decide)).1
  · apply (hlast [⟨"a", quota "10"⟩, ⟨"b", quota "20"⟩] ⟨"a", quota "30"⟩ [] (by decide)
      (by decide)).2
  · apply habsent
    decide

end QuotaShare
