import QuotaShare.Document.LayeredFile
import QuotaShare.Document.Yaml
import QuotaShare.Store

/-!
# Loading

Settings and stores that are read from documents, files and the environment, and the errors for
those that cannot be read.
-/

namespace QuotaShare

/-- The settings that a text stands for. -/
def Settings.ofText {ε δ : Type} (r : Reader ε δ) (s : String) : Except QuotaError Settings :=
  (r.decode ofDocument? s).mapError fun e => .config "" (r.message e)

/-- The settings that a YAML text stands for. -/
def Settings.ofYaml (s : String) : Except QuotaError Settings :=
  ofText Yaml.reader s

/-- The start of the names of the variables that override settings. -/
def Settings.variableLead : String := "tablequota__"

/-- The setting that a variable of the environment overrides; two underscores separate the steps of
the path to it. -/
def Settings.override? (name value : String) : Option (String × Json) :=
  let name := (Layered.lower name).toList
  let lead := variableLead.toList
  if lead.isPrefixOf name then
    some ((String.ofList (name.drop lead.length)).replace "__" ".", .text value)
  else none

/-- The settings of a file, overridden by those of the environment. -/
def Settings.ofLayers (file : String) (environment : List (String × String)) :
    Except Yaml.Fault Settings := do
  let base ← Layered.ofFile file
  let overrides := environment.filterMap fun (name, value) => override? name value
  let value := Layered.overlay (Layered.overlay (.object []) base) overrides
  match ofDocument? Layered.format value with
  | some settings => .ok settings
  | none => .error .shape

/-- The settings of a file that may be missing, overridden by those of the environment. -/
def Settings.ofFile (file : Option String) (environment : List (String × String)) :
    Except QuotaError Settings :=
  match file with
  | none => .error (.config "" "the configuration file was not found")
  | some s => (ofLayers s environment).mapError fun e => .config "" e.message

/-- The store of the tables that a text lists. -/
def Store.ofText {ε δ : Type} (r : Reader ε δ) (s : String) : Except QuotaError Store :=
  match r.decode TableEntry.listOfDocument? s with
  | .ok entries => .ok (ofConfigs (entries.map TableEntry.config))
  | .error e => .error (.config "Failed to parse table configs: " (r.message e))

/-- The store of the tables that a YAML text lists. -/
def Store.ofYaml (s : String) : Except QuotaError Store :=
  ofText Yaml.reader s

/-- The store of the tables that a file lists, which may be missing or no text. -/
def Store.ofFile (file : Option ByteArray) : Except QuotaError Store :=
  match file with
  | none => .error (.io "No such file or directory (os error 2)")
  | some bytes =>
    match String.fromUTF8? bytes with
    | some s => ofYaml s
    | none => .error (.io "stream did not contain valid UTF-8")

end QuotaShare
