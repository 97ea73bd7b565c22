import PacketReplay.Cli.Arguments
import PacketReplay.Cli.FileTree
import PacketReplay.Cli.Log
import PacketReplay.Config.Settings
import PacketReplay.Http.Client
import PacketReplay.Session.Calls

set_option autoImplicit false

namespace PacketReplay

structure Surroundings where
  dirs : HomeDirs
  accessToken : Option String
  logLevel : Option String
  working : FilePath
  today : String
  now : Instant
  freshToken : String
deriving DecidableEq

namespace Surroundings

def deepest (s : Surroundings) : Option LogLevel :=
  match s.logLevel with
  | some text => LogLevel.parse text
  | none => some .info

end Surroundings

def databaseName : String := "packetproxy_packets.sqlite"

def tokenName : String := "access_token.secret"

def logName : String := "packetproxy_core"

def quotedChar (c : Char) : List Char :=
  match c with
  | '\x22' => ['\\', '\x22']
  | '\\' => ['\\', '\\']
  | '\n' => ['\\', 'n']
  | '\r' => ['\\', 'r']
  | '\t' => ['\\', 't']
  | c => [c]

def quotedPath (path : String) : String :=
  String.ofList ('\x22' :: path.toList.flatMap quotedChar ++ ['\x22'])

inductive StartFault where
  | logDirectory (path : String) (fault : DirectoryFault)
  | storageDirectory (path : String)
  | openDatabase (path : String)
  | badDatabase
  | tokenDirectory
  | tokenText
  | readConfig (path : String)
  | badConfig
deriving DecidableEq

def StartFault.message : StartFault → String
  | logDirectory path fault => "Failed to create log directory " ++ path ++ ": " ++ fault.message
  | storageDirectory path => "creating " ++ path
  | openDatabase path => "opening database at " ++ quotedPath path
  | badDatabase => "creating packet schema"
  | tokenDirectory => "Is a directory (os error 21)"
  | tokenText => "stream did not contain valid UTF-8"
  | readConfig path => "reading configuration from " ++ quotedPath path
  | badConfig => "parsing configuration snapshot"

structure Progressed where
  tree : FileTree
  events : List LogEvent
deriving DecidableEq

namespace Progressed

def log (p : Progressed) (e : LogEvent) : Progressed :=
  { p with events := p.events ++ [e] }

end Progressed

def logFile? (w : Surroundings) (a : CliArguments) : Option FilePath :=
  a.logDir.map fun dir => FilePath.ofText w.working dir ++ [logName ++ "." ++ w.today]

def openLog (w : Surroundings) (a : CliArguments) (tree : FileTree) :
    Except StartFault FileTree :=
  match a.logDir with
  | none => .ok tree
  | some dir =>
    let path := FilePath.ofText w.working dir
    match tree.createDirectory path with
    | .error fault => .error (.logDirectory dir fault)
    | .ok tree =>
      let file := path ++ [logName ++ "." ++ w.today]
      .ok (if (tree.find? file).isSome then tree else tree.write file (.bytes []))

def settingsOf (w : Surroundings) (a : CliArguments) : Settings :=
  let default := Settings.default w.dirs
  { default with
    storagePath := a.storagePath.getD default.storagePath
    dispatchTimeoutMs := a.timeoutMs.getD default.dispatchTimeoutMs
    acceptInvalidCerts := a.acceptInvalidCerts }

def watchedPaths (w : Surroundings) (a : CliArguments) : List FilePath :=
  let storage := FilePath.ofText w.working (settingsOf w a).storagePath
  let files := [storage ++ [databaseName], storage ++ [tokenName]] ++
    a.config.toList.map (FilePath.ofText w.working) ++ (logFile? w a).toList
  (files.flatMap fun p => p.ancestors ++ [p]).eraseDups

def createStorage (w : Surroundings) (path : String) (tree : FileTree) :
    Except StartFault FileTree :=
  let p := FilePath.ofText w.working path
  if !tree.isBelowFile p && (tree.find? p).isSome then .ok tree
  else
    match tree.createDirectory p with
    | .ok tree => .ok tree
    | .error _ => .error (.storageDirectory path)

/-- Opens the database, which is created when there is none; an empty file is an empty database. -/
def openDatabase (w : Surroundings) (path : String) (tree : FileTree) :
    Except StartFault (Table × FileTree) :=
  let file := FilePath.ofText w.working path ++ [databaseName]
  if tree.isBelowFile file then .error (.openDatabase (joinPath path databaseName))
  else
    match tree.find? file with
    | some .directory => .error (.openDatabase (joinPath path databaseName))
    | some (.file (.database t)) => .ok (t, tree)
    | some (.file (.bytes [])) => .ok (Table.empty, tree.write file (.database Table.empty))
    | some (.file (.bytes _)) => .error .badDatabase
    | none => .ok (Table.empty, tree.write file (.database Table.empty))

def tokenFile (tree : FileTree) (p : FilePath) : TokenFile :=
  match tree.find? p with
  | none => .missing
  | some .directory => .unreadable
  | some (.file (.bytes b)) => .file b
  | some (.file (.database _)) => .file [0xFF]

/-- Sees to it that there is a token, unless one is given; with where tokens come from. -/
def openToken (w : Surroundings) (a : CliArguments) (path : String) (tree : FileTree) :
    Except StartFault (TrustStore × FileTree) :=
  match a.accessToken with
  | some token => .ok (.fixed (some token), tree)
  | none =>
    let p := FilePath.ofText w.working path ++ [tokenName]
    let file := tokenFile tree p
    match file.ensure w.freshToken with
    | (some _, .file contents) => .ok (.file (.file contents), tree.write p (.bytes contents))
    | _ => .error (if file = .unreadable then .tokenDirectory else .tokenText)

def loadConfig (w : Surroundings) (a : CliArguments) (tree : FileTree) :
    Except StartFault Snapshot :=
  match a.config with
  | none => .ok Snapshot.empty
  | some path =>
    let p := FilePath.ofText w.working path
    match (if tree.isBelowFile p then none else tree.file? p) with
    | some (.bytes b) =>
      match bytesText? b with
      | none => .error (.readConfig path)
      | some text =>
        match Snapshot.ofText? text with
        | some snapshot => .ok snapshot
        | none => .error .badConfig
    | _ => .error (.readConfig path)

/-- How sends go out when there is no server to be reached. -/
def Transport.overHttp (server : Option HttpServer) : Transport := fun _ r =>
  .delivery (r.send server).delivery

structure Started where
  session : Session
  database : FilePath

/-- Makes everything ready; with what was done, also when something cannot be had. -/
def start (w : Surroundings) (a : CliArguments) (tree : FileTree) :
    Progressed × Except StartFault Started :=
  match openLog w a tree with
  | .error fault => (⟨tree, []⟩, .error fault)
  | .ok tree =>
    let settings := settingsOf w a
    let path := settings.storagePath
    match createStorage w path tree with
    | .error fault => (⟨tree, []⟩, .error fault)
    | .ok tree =>
      let p : Progressed := ⟨tree, [.starting]⟩
      match openDatabase w path tree with
      | .error fault => (p, .error fault)
      | .ok (table, tree) =>
        let p := { p with tree := tree }
        match openToken w a path tree with
        | .error fault => (p, .error fault)
        | .ok (trust, tree) =>
          let p := { p with tree := tree }
          let p := if a.accessToken.isNone then p.log .tokenStored else p
          match loadConfig w a tree with
          | .error fault => (p, .error fault)
          | .ok snapshot =>
            let service : Service := {
              coordinator := Coordinator.ofStore
                { Store.empty settings.ringSize with table := some table }
              trust
              configs := Registry.ofSnapshot snapshot
              maxCount := settings.maxResendCount
              maxIntervalMs := settings.maxIntervalMs }
            (p.log .ready, .ok {
              session := Session.start service true false (Transport.overHttp none) w.now
              database := FilePath.ofText w.working path ++ [databaseName] })

end PacketReplay
