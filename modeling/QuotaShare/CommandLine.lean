import QuotaShare.Settings

/-!
# Command line

The options with which a node is started, and the settings that they override.
-/

namespace QuotaShare

/-- The ways to write events. -/
inductive LogFormat where
  | text
  | json
  deriving DecidableEq, Repr

/-- The options of a node. -/
structure Options where
  /-- The file of the settings. -/
  config : Option String
  /-- The file of the tables, which replaces the tables of the settings. -/
  tables : Option String
  nodeId : Option String
  listen : Option SocketAddress
  /-- The seeds in reverse order. -/
  seeds : List String
  log : LogFormat
  deriving DecidableEq, Repr

namespace Options

/-- No option was given. -/
def none : Options := ⟨.none, .none, .none, .none, [], .text⟩

/-- Sets the option with a given name. -/
def set (o : Options) (name value : String) : Except String Options :=
  match name with
  | "--config" | "-c" => .ok { o with config := value }
  | "--tables" => .ok { o with tables := value }
  | "--node-id" => .ok { o with nodeId := value }
  | "--seed" => .ok { o with seeds := value :: o.seeds }
  | "--listen-addr" =>
    match SocketAddress.ofText? value with
    | some address => .ok { o with listen := address }
    | .none => .error ("invalid address: " ++ value)
  | "--log-format" =>
    match value with
    | "text" => .ok { o with log := .text }
    | "json" => .ok { o with log := .json }
    | _ => .error ("invalid log format: " ++ value)
  | _ => .error ("unexpected argument: " ++ name)

/-- An option and its value that are written as one argument. -/
def split (argument : String) : String × Option String :=
  let name := argument.toList.takeWhile (· != '=')
  let rest := argument.toList.drop name.length
  (String.ofList name, if rest.isEmpty then .none else some (String.ofList (rest.drop 1)))

/-- The options after the given arguments were read. -/
def read : Options → List String → Except String Options
  | o, [] => .ok o
  | o, argument :: rest =>
    match split argument, rest with
    | (name, some value), rest => do (← o.set name value).read rest
    | (name, .none), value :: rest => do (← o.set name value).read rest
    | (name, .none), [] => .error ("a value is missing for " ++ name)

/-- The settings with those that the options override. -/
def apply (o : Options) (s : Settings) : Settings :=
  { s with
    node := { s.node with nodeId := o.nodeId <|> s.node.nodeId }
    gossip := { s.gossip with
      listen := o.listen.getD s.gossip.listen
      seeds := if o.seeds.isEmpty then s.gossip.seeds else o.seeds.reverse } }

end Options

end QuotaShare
