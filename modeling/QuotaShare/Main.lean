import QuotaShare.CommandLine
import QuotaShare.Identifier
import QuotaShare.Loading
import QuotaShare.Log
import QuotaShare.Serving

/-!
# Main

The program: it starts a node without peers, reads the table of one query per line, and prints
whether the query is admitted.  Events go to the error output.
-/

namespace QuotaShare

/-- The variables of the environment that override settings. -/
def variableNames : List String :=
  let ofSection (name : String) (fields : List String) :=
    fields.map fun f => (Settings.variableLead ++ name ++ "__" ++ f).toUpper
  ofSection "node" ["node_id", "broker_resource"] ++
    ofSection "cluster" GossipSettings.fieldNames ++
    ofSection "quota" ["hit_counter_window_ms", "max_burst_secs", "rate_change_epsilon"]

/-- The text of a file, if it can be read. -/
def readText (path : String) : IO (Option String) := do
  try
    let bytes ← IO.FS.readBinFile path
    pure (String.fromUTF8? bytes)
  catch _ => pure none

/-- The bytes of a file, if it can be read. -/
def readBytes (path : String) : IO (Option ByteArray) := do
  try
    let bytes ← IO.FS.readBinFile path
    pure (some bytes)
  catch _ => pure none

/-- The result of a computation that may fail. -/
def orThrow {α : Type} (x : Except QuotaError α) : IO α :=
  match x with
  | .ok a => pure a
  | .error e => throw (IO.userError e.message)

/-- The settings that the options and the environment ask for. -/
def loadSettings (options : Options) : IO Settings := do
  match options.config with
  | none => pure (options.apply Settings.default)
  | some path =>
    let environment ← variableNames.filterMapM fun name => do
      pure ((← IO.getEnv name).map fun value => (name, value))
    pure (options.apply (← orThrow (Settings.ofFile (← readText path) environment)))

/-- The store that the options ask for. -/
def loadStore (options : Options) (settings : Settings) : IO Store := do
  match options.tables with
  | none => pure (Store.ofConfigs settings.tableConfigs)
  | some path => orThrow (Store.ofFile (← readBytes path))

/-- Writes the events of a computation, and gives its value. -/
def emit {α : Type} (log : LogFormat) (x : Traced α) : IO α := do
  x.events.forM fun e => do IO.eprintln (e.line log)
  pure x.value

/-- Answers the queries of the standard input. -/
partial def answer (log : LogFormat) (input : IO.FS.Stream) (server : Server) : IO Unit := do
  let line ← input.getLine
  if line.isEmpty then pure ()
  else
    let now ← IO.monoNanosNow
    let (server, admitted) ← emit log (server.query now (Text.trim line))
    IO.println (if admitted then "admitted" else "refused")
    answer log input server

/-- Runs a node with the given options. -/
def run (options : Options) : IO Unit := do
  let settings ← loadSettings options
  let store ← loadStore options settings
  let bits ← IO.rand 0 (Nat.pow 2 128 - 1)
  let nodeId := settings.node.nodeId.getD (Identifier.ofBits bits)
  let builder := (Builder.empty.withLocalNode nodeId).withStore store
  let service ← orThrow ((builder.withSink .labels).withSettings settings.quota).build
  let source := Membership.peer (Peer.empty nodeId)
  let now ← IO.monoNanosNow
  let server ← emit options.log
    (Server.start service source settings.node.resource settings.gossip.pollInterval now)
  answer options.log (← IO.getStdin) server

end QuotaShare

/-- Starts a node with the options of the command line. -/
def main (args : List String) : IO UInt32 := do
  match QuotaShare.Options.none.read args with
  | .error e =>
    IO.eprintln e
    pure 2
  | .ok options =>
    try
      QuotaShare.run options
      pure 0
    catch e =>
      IO.eprintln (toString e)
      pure 1
