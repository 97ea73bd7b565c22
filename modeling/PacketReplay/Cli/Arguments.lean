set_option autoImplicit false

namespace PacketReplay

inductive CliOption where
  | storagePath | config | logDir | timeoutMs | accessToken
deriving DecidableEq

namespace CliOption

def name : CliOption → String
  | storagePath => "--storage-path"
  | config => "--config"
  | logDir => "--log-dir"
  | timeoutMs => "--timeout-ms"
  | accessToken => "--access-token"

def all : List CliOption :=
  [storagePath, config, logDir, timeoutMs, accessToken]

def ofName? (name : String) : Option CliOption :=
  all.find? fun o => o.name == name

end CliOption

structure CliArguments where
  storagePath : Option String
  config : Option String
  logDir : Option String
  timeoutMs : Option UInt64
  accessToken : Option String
  acceptInvalidCerts : Bool
deriving DecidableEq

inductive CliStop where
  | help
  | misuse
deriving DecidableEq

namespace CliArguments

def none : CliArguments :=
  ⟨.none, .none, .none, .none, .none, false⟩

def usage : String :=
  "Usage: packetproxy_mcp [OPTIONS]\n\nOptions:\n" ++
    "  --storage-path <PATH>    Directory of the packet database and the access token\n" ++
    "  --config <FILE>          Configuration in JSON, which get_configs shows\n" ++
    "  --log-dir <DIRECTORY>    Directory of a daily log file\n" ++
    "  --timeout-ms <NUMBER>    How long one send may take (default: 30000)\n" ++
    "  --accept-invalid-certs   Accept invalid certificates\n" ++
    "  --access-token <TOKEN>   Token that resend_packet needs\n" ++
    "  -h, --help               Print help"

def number? (s : String) : Option UInt64 :=
  let digits := match s.toList with
    | '+' :: rest => rest
    | cs => cs
  if digits.isEmpty ∨ !digits.all Char.isDigit then .none
  else
    let n : Nat := digits.foldl (fun n c => n * 10 + (c.toNat - 48)) 0
    if n < 0x10000000000000000 then some n.toUInt64 else .none

def once {α : Type} (given : Option α) (value : Option α) : Except CliStop (Option α) :=
  match given, value with
  | .none, some v => .ok (some v)
  | _, _ => .error .misuse

def path? (s : String) : Option String :=
  if s = "" then .none else some s

def give (a : CliArguments) (value : String) : CliOption → Except CliStop CliArguments
  | .storagePath => return { a with storagePath := ← once a.storagePath (path? value) }
  | .config => return { a with config := ← once a.config (path? value) }
  | .logDir => return { a with logDir := ← once a.logDir (path? value) }
  | .timeoutMs => return { a with timeoutMs := ← once a.timeoutMs (number? value) }
  | .accessToken => return { a with accessToken := ← once a.accessToken (some value) }

def acceptCerts (a : CliArguments) : Except CliStop CliArguments :=
  if a.acceptInvalidCerts then .error .misuse else .ok { a with acceptInvalidCerts := true }

def isValue (s : String) : Bool :=
  s == "-" || !s.startsWith "-"

def splitAttached (s : String) : String × Option String :=
  match s.toList.dropWhile (· != '=') with
  | [] => (s, .none)
  | _ :: value => (String.ofList (s.toList.takeWhile (· != '=')), some (String.ofList value))

def readFrom : List String → CliArguments → Except CliStop CliArguments
  | [], a => .ok a
  | [s], a => do
    let (name, attached) := splitAttached s
    match CliOption.ofName? name, attached with
    | some o, some value => a.give value o
    | some _, .none => throw .misuse
    | .none, _ =>
      if s = "--help" ∨ s.startsWith "-h" then throw .help
      else if s = "--accept-invalid-certs" then a.acceptCerts
      else if s = "--" then return a
      else throw .misuse
  | s :: value :: rest, a => do
    let (name, attached) := splitAttached s
    match CliOption.ofName? name, attached with
    | some o, some v => readFrom (value :: rest) (← a.give v o)
    | some o, .none => if isValue value then readFrom rest (← a.give value o) else throw .misuse
    | .none, _ =>
      if s = "--help" ∨ s.startsWith "-h" then throw .help
      else if s = "--accept-invalid-certs" then readFrom (value :: rest) (← a.acceptCerts)
      else throw .misuse

/-- Reads the arguments; a token that they do not give is taken from the environment. -/
def read (environmentToken : Option String) (arguments : List String) :
    Except CliStop CliArguments := do
  let a ← readFrom arguments none
  return { a with accessToken := a.accessToken <|> environmentToken }

end CliArguments

end PacketReplay
