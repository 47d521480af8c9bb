import QuotaShare.Loading
import QuotaShare.Proofs.Store.Log

/-!
# The tables of a document

A document may be read for all the settings of a node or for the tables alone.  Whoever reads the
settings knows more fields and refuses more documents, but what is known besides a field has no
influence on what is read under it: where the settings can be read the tables can be read as well,
they are the same, and a store that is loaded from the document holds what these tables say.  This is
so for every reader of texts whose records are read in this way, whatever its parser does; of the
YAML reader nothing else is used.
-/

namespace QuotaShare

/-! ### Known fields -/

/-- Whether two records hold the same under each of some names. -/
def AgreeOn {δ : Type} (names : List String) (fields other : ByName δ) : Prop :=
  ∀ name ∈ names, fields[name]? = other[name]?

/-- Whether what a record holds does not depend on what else is known: a record that is read with
some fields known is also read with fewer of them known, and holds the same under these.  This is not
so where a record may be written as the list of its fields. -/
def Format.Narrows {δ : Type} (f : Format δ) : Prop :=
  ∀ {names known : List String} {d : δ} {fields : ByName δ}, names ⊆ known →
    f.record? known d = some fields →
    ∃ fewer, f.record? names d = some fewer ∧ AgreeOn names fewer fields

/-- Whether all documents of a reader are read in this way. -/
def Reader.Narrows {ε δ : Type} (r : Reader ε δ) : Prop :=
  ∀ d, (r.format d).Narrows

namespace AgreeOn

variable {δ : Type} {names : List String} {fields other : ByName δ}

theorem refl (names : List String) (fields : ByName δ) :
  AgreeOn names fields fields
  := fun _ _ => rfl

theorem insert (h : AgreeOn names fields other) (name : String) (value : δ) :
  AgreeOn names (fields.insert name value) (other.insert name value)
  := by
  intro name' hname'
  rw [ByName.getElem?_insert, ByName.getElem?_insert, h name' hname']

/-- A field with a name that does not matter does not matter. -/
theorem insert_right (h : AgreeOn names fields other) {name : String} (hname : name ∉ names)
    (value : δ) :
  AgreeOn names fields (other.insert name value)
  := by
  intro name' hname'
  rw [ByName.getElem?_insert, if_neg (ne_of_mem_of_not_mem hname' hname).symm, h name' hname']

theorem field?_eq {α : Type} (h : AgreeOn names fields other) {name : String} (hname : name ∈ names)
    (absent : Option α) (read : δ → Option α) :
  field? fields name absent read = field? other name absent read
  := by
  rw [field?, field?, h name hname]

end AgreeOn

namespace Yaml.Node

variable {anchors : List (Nat × Node Nat)} {names known : List String}

/-- A known field is added unless it is there already, and any other field is passed over. -/
theorem knownEntries_cons_eq_some_iff {key value : Node Nat} {entries : List (Node Nat × Node Nat)}
    {fields all : ByName (Node Nat)} :
  knownEntries anchors known ((key, value) :: entries) fields = some all ↔
    ∃ name, text? anchors key = some name ∧
      if name ∈ known then
        fields[name]? = none ∧
          knownEntries anchors known entries (fields.insert name value) = some all
      else knownEntries anchors known entries fields = some all
  := by
  rw [knownEntries]
  cases text? anchors key with
  | none => simp
  | some name =>
      simp only [Option.bind_eq_bind, Option.bind_some, List.contains_iff_mem, Option.some.injEq,
        exists_eq_left']
      split
      · simp
      · rfl

/-- Entries that are read with some fields known are also read with fewer of them known. -/
theorem exists_knownEntries_of_subset (hnames : names ⊆ known)
    {entries : List (Node Nat × Node Nat)} {fields fewer all : ByName (Node Nat)}
    (hfewer : AgreeOn names fewer fields)
    (hall : knownEntries anchors known entries fields = some all) :
  ∃ narrowed, knownEntries anchors names entries fewer = some narrowed ∧
    AgreeOn names narrowed all
  := by
  induction entries generalizing fields fewer with
  | nil =>
      cases hall
      exact ⟨fewer, rfl, hfewer⟩
  | cons entry entries ih =>
      obtain ⟨key, value⟩ := entry
      obtain ⟨name, hkey, hname⟩ := knownEntries_cons_eq_some_iff.mp hall
      simp only [knownEntries_cons_eq_some_iff, hkey, Option.some.injEq, exists_eq_left']
      by_cases hmem : name ∈ names
      · rw [if_pos (hnames hmem)] at hname
        obtain ⟨hnew, hlater⟩ := hname
        obtain ⟨narrowed, hnarrowed, hagree⟩ := ih (hfewer.insert name value) hlater
        use narrowed
        rw [if_pos hmem, hfewer name hmem]
        exact ⟨⟨hnew, hnarrowed⟩, hagree⟩
      -- A field that only the first reading knows makes no difference to the second.
      · simp only [if_neg hmem]
        by_cases hknown : name ∈ known
        · rw [if_pos hknown] at hname
          apply ih (hfewer.insert_right hmem value) hname.2
        · rw [if_neg hknown] at hname
          apply ih hfewer hname

/-- Nodes are read for some fields whatever else is known. -/
theorem narrows_format (anchors : List (Nat × Node Nat)) :
  (format anchors).Narrows
  := by
  intro names known d fields hnames hfields
  change record? anchors known d = some fields at hfields
  change ∃ fewer, record? anchors names d = some fewer ∧ _
  rw [record?] at hfields ⊢
  split at hfields
  · apply exists_knownEntries_of_subset hnames (AgreeOn.refl names _) hfields
  · cases hfields
    exact ⟨∅, rfl, AgreeOn.refl names ∅⟩
  · cases hfields

end Yaml.Node

theorem Yaml.narrows_reader :
  reader.Narrows
  := fun node => Node.narrows_format node.anchored

example :
  ¬ Json.format.Narrows
  := by
  intro h
  have hknown : ["tables"] ⊆ ["node", "tables"] := by decide
  obtain ⟨fewer, hfewer, _⟩ := h hknown (d := .list [.null, .null]) rfl
  cases hfewer

/-! ### Tables -/

/-- Where the settings of a document can be read, the tables alone are read to be the same. -/
theorem TableEntry.listOfDocument?_of_settings {δ : Type} {f : Format δ} (hf : f.Narrows) {d : δ}
    {settings : Settings} (h : Settings.ofDocument? f d = some settings) :
  listOfDocument? f d = some settings.tables
  := by
  rw [Settings.ofDocument?] at h
  simp only [Option.bind_eq_bind, Option.bind_eq_some_iff] at h
  obtain ⟨fields, hfields, node, _, gossip, _, quota, _, tables, htables, hsettings⟩ := h
  have hknown : ["tables"] ⊆ ["node", "cluster", "quota", "tables"] := by decide
  obtain ⟨fewer, hfewer, hagree⟩ := hf hknown hfields
  cases hsettings
  rw [listOfDocument?, hfewer]
  change tableEntries? f fewer = some tables
  rw [tableEntries?, hagree.field?_eq List.mem_cons_self]
  apply htables

section

variable {ε δ : Type} {r : Reader ε δ} {s : String}

/-- What is read from a text is read from its document. -/
theorem Reader.decode_eq_ok_iff {α : Type} {read : Format δ → δ → Option α} {a : α} :
  r.decode read s = .ok a ↔ ∃ d, r.document s = .ok d ∧ read (r.format d) d = some a
  := by
  rw [decode]
  cases r.document s with
  | error e => simp [bind, Except.bind]
  | ok d =>
      simp only [bind, Except.bind, Except.ok.injEq, exists_eq_left']
      cases read (r.format d) d with
      | none => simp
      | some a => simp

theorem Settings.ofText_eq_ok_iff {settings : Settings} :
  ofText r s = .ok settings ↔ r.decode ofDocument? s = .ok settings
  := by
  rw [ofText]
  cases r.decode ofDocument? s with
  | error e => exact iff_of_false nofun nofun
  | ok other =>
      change Except.ok other = Except.ok settings ↔ _
      rw [Except.ok.injEq, Except.ok.injEq]

/-- Whatever the parser, a store is loaded from every text from which settings are read, and it is the
one in which the configurations of their tables were written in order. -/
theorem Store.ofText_of_settings (hr : r.Narrows) {settings : Settings}
    (h : Settings.ofText r s = .ok settings) :
  ofText r s = .ok (ofConfigs settings.tableConfigs)
  := by
  obtain ⟨d, hd, hsettings⟩ := Reader.decode_eq_ok_iff.mp (Settings.ofText_eq_ok_iff.mp h)
  have htables : r.decode TableEntry.listOfDocument? s = .ok settings.tables :=
    Reader.decode_eq_ok_iff.mpr ⟨d, hd, TableEntry.listOfDocument?_of_settings (hr d) hsettings⟩
  rw [ofText, htables]
  rfl

end

theorem eq_ok_of_toOption {ε α : Type} {x : Except ε α} {a : α} (h : x.toOption = some a) :
  x = .ok a
  := by
  cases x with
  | error e => cases h
  | ok a => exact congrArg Except.ok (Option.some.inj h)

/-! ### Stores -/

theorem mem_names_ofConfigs_entries_iff {entries : List TableEntry} {table : String} :
  table ∈ (Store.ofConfigs (entries.map TableEntry.config)).names ↔
    ∃ entry ∈ entries, entry.table = table
  := by
  rw [Store.mem_names_ofConfigs_iff]
  constructor
  · rintro ⟨config, hconfig, rfl⟩
    obtain ⟨entry, hentry, rfl⟩ := List.mem_map.mp hconfig
    exact ⟨entry, hentry, rfl⟩
  · rintro ⟨entry, hentry, rfl⟩
    exact ⟨entry.config, List.mem_map_of_mem hentry, rfl⟩

/-- Of the entries for a table the last one is stored, with its place as the version. -/
theorem records_ofConfigs_entries (before : List TableEntry) {after : List TableEntry}
    {entry : TableEntry} (hafter : ∀ later ∈ after, later.table ≠ entry.table) :
  (Store.ofConfigs ((before ++ entry :: after).map TableEntry.config)).records[entry.table]? =
    some ⟨entry.config.quota, before.length.toUInt64⟩
  := by
  rw [List.map_append, List.map_cons, ← List.length_map TableEntry.config]
  apply Store.records_ofConfigs
  intro config hconfig
  obtain ⟨later, hlater, rfl⟩ := List.mem_map.mp hconfig
  apply hafter later hlater

/-- A store is loaded from every text from which settings are read, and it is the one in which the
configurations of their tables were written in order.  It holds the tables that are listed, each with
the quota of the last entry for it, if that has one, and with the place of this entry as the version;
without a list it holds none. -/
theorem store_ofYaml_of_settings {s : String} {settings : Settings}
    (h : Settings.ofYaml s = .ok settings) :
  ∃ store, Store.ofYaml s = .ok store ∧ store = Store.ofConfigs settings.tableConfigs ∧
    (∀ table, table ∈ store.names ↔ ∃ entry ∈ settings.tables, entry.table = table) ∧
    ∀ before entry after, settings.tables = before ++ entry :: after →
      (∀ later ∈ after, later.table ≠ entry.table) →
      store.quota? entry.table = entry.perSecond.map (fun rate => ⟨some rate⟩) ∧
        store.version? entry.table = some before.length.toUInt64
  := by
  have hstore : Store.ofYaml s = .ok (Store.ofConfigs settings.tableConfigs) :=
    Store.ofText_of_settings Yaml.narrows_reader h
  refine ⟨Store.ofConfigs settings.tableConfigs, hstore, rfl, ?_, ?_⟩
  · intro table
    apply mem_names_ofConfigs_entries_iff
  · intro before entry after hlist hafter
    have hrecord := records_ofConfigs_entries before hafter
    rw [← hlist] at hrecord
    constructor
    · rw [Store.quota?, Settings.tableConfigs, hrecord]
      rfl
    · rw [Store.version?, Settings.tableConfigs, hrecord]
      rfl

/-- A document with two entries for one table, of which the last one is no number, and with an entry
without a quota, and a document without a list of tables. -/
theorem store_ofYaml_of_repeated_table :
  let s := "quota:\n  rate_change_epsilon: 0.5\nother: [x]\ntables:\n" ++
    "- table: a\n  max_queries_per_second: 10\n" ++
    "- table: b\n" ++
    "- table: a\n  max_queries_per_second: 1_0\n"
  let settings : Settings :=
    { Settings.default with
      quota := { QuotaSettings.default with epsilon := 0.5 }
      tables := [⟨"a", some "10"⟩, ⟨"b", none⟩, ⟨"a", some "1_0"⟩] }
  (Settings.ofYaml s = .ok settings ∧ ∃ store, Store.ofYaml s = .ok store ∧
    store = Store.ofConfigs settings.tableConfigs ∧ "b" ∈ store.names ∧
    store.quota? "a" = some ⟨some "1_0"⟩ ∧ store.version? "a" = some 2 ∧
    store.quota? "b" = none ∧ store.version? "b" = some 1) ∧
  Settings.ofYaml "node:\n" = .ok Settings.default ∧ ∃ store, Store.ofYaml "node:\n" = .ok store ∧
    ∀ table, table ∉ store.names
  := by
  intro s settings
  have hsettings : Settings.ofYaml s = .ok settings := eq_ok_of_toOption (by decide +kernel)
  have hdefault : Settings.ofYaml "node:\n" = .ok Settings.default :=
    eq_ok_of_toOption (by decide +kernel)
  obtain ⟨store, hstore, heq, hnames, hlast⟩ := store_ofYaml_of_settings hsettings
  obtain ⟨bare, hbare, _, hbareNames, _⟩ := store_ofYaml_of_settings hdefault
  obtain ⟨hquota, hversion⟩ := hlast [⟨"a", some "10"⟩, ⟨"b", none⟩] ⟨"a", some "1_0"⟩ [] rfl nofun
  obtain ⟨hquota', hversion'⟩ :=
    hlast [⟨"a", some "10"⟩] ⟨"b", none⟩ [⟨"a", some "1_0"⟩] rfl (by decide)
  refine ⟨⟨hsettings, store, hstore, heq, ?_, hquota, hversion, hquota', hversion'⟩, hdefault,
    bare, hbare, ?_⟩
  · apply (hnames "b").mpr
    exact ⟨⟨"b", none⟩, by decide, rfl⟩
  · intro table htable
    obtain ⟨entry, hentry, _⟩ := (hbareNames table).mp htable
    cases hentry

end QuotaShare
