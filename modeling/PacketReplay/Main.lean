import PacketReplay.Cli.Connection
import PacketReplay.Store.TableText
import PacketReplay.Time.Rfc3339
import Std.Time.Format

/-!
# Running the program

The program on a real machine. What it looks at is read into a file tree first, the decisions are
made on that, and what has changed is written back. A client is served over the standard input and
output, line by line; what is logged goes to the standard error output, and to the log file if
there is to be one. No server can be reached from here: every send is refused.
-/

set_option autoImplicit false

namespace PacketReplay

def absolutePath (p : FilePath) : String :=
  "/" ++ "/".intercalate p

def fileContent (p : FilePath) (b : ByteArray) : FileContent :=
  let bytes := b.toList
  if p.getLast? = some databaseName then
    match (bytesText? bytes).bind Table.ofText? with
    | some t => .database t
    | none => .bytes bytes
  else .bytes bytes

def contentBytes : FileContent → ByteArray
  | .bytes b => ⟨b.toArray⟩
  | .database t => t.toText.toUTF8

def readNode (p : FilePath) : IO (Option FileNode) := do
  try
    let path ← IO.FS.realPath (absolutePath p)
    if ← path.isDir then return some .directory
    let bytes ← IO.FS.readBinFile path
    return some (.file (fileContent p bytes))
  catch _ => return none

def readTree (paths : List FilePath) : IO FileTree := do
  let nodes ← paths.filterMapM fun p => do
    return (← readNode p).map fun n => (p, n)
  return ⟨nodes⟩

/-- Writes to disk what one tree has and another had not. -/
def writeChanges (old new : FileTree) : IO Unit := do
  for (p, node) in new.nodes do
    if old.find? p ≠ some node then
      match node with
      | .directory => IO.FS.createDirAll (absolutePath p)
      | .file content =>
        IO.FS.writeBinFile (absolutePath p) (contentBytes content)
        if p.getLast? = some tokenName then
          IO.setAccessRights (absolutePath p) { user := { read := true, write := true } }

def wallTime : IO Instant := do
  let nanos := (← Std.Time.Timestamp.now).toNanosecondsSinceUnixEpoch.val
  match Instant.ofParts? (nanos / 1000000000) (nanos % 1000000000).toNat with
  | some t => return t
  | none => throw (IO.userError "the clock is out of range")

def hexText (b : ByteArray) : String :=
  String.ofList (b.toList.flatMap fun v => [v.toNat / 16, v.toNat % 16].map Nat.digitChar)

def surroundings : IO Surroundings := do
  let now ← wallTime
  return {
    dirs := ⟨← IO.getEnv "HOME", ← IO.getEnv "XDG_DATA_HOME", "/"⟩
    accessToken := ← IO.getEnv "PACKETPROXY_ACCESS_TOKEN"
    logLevel := ← IO.getEnv "RUST_LOG"
    working := FilePath.ofText [] (← IO.currentDir).toString
    today := String.ofList ((Rfc3339.write now).toList.takeWhile (· != 'T'))
    now
    freshToken := hexText (← IO.getRandomBytes 16) }

structure LogTarget where
  deepest : Option LogLevel
  file : Option FilePath

def LogTarget.write (t : LogTarget) (events : List LogEvent) : IO Unit := do
  for e in writtenEvents t.deepest events do
    let line := Rfc3339.write (← wallTime) ++ " " ++ e.level.name ++ " " ++ e.message
    IO.eprintln line
    if let some p := t.file then
      (← IO.FS.Handle.mk (absolutePath p) .append).putStrLn line

def stop (text : String) : IO UInt32 := do
  IO.eprintln ("Error: " ++ text)
  return 1

/-- Keeps the table of a session, when it is not the one that was kept before. -/
def keepTable (database : FilePath) (before after : Session) : IO Unit := do
  if let some t := after.service.store.table then
    if before.service.store.table ≠ some t then
      IO.FS.writeBinFile (absolutePath database) (contentBytes (.database t))

partial def converse (log : LogTarget) (database : FilePath) (c : Connection) : IO UInt32 := do
  let line ← (← IO.getStdin).getLine
  if line.isEmpty then
    if c.introduced then return 0 else stop "connection closed before it was initialized"
  else
    let c := { c with session := { c.session with now := ← wallTime } }
    match c.receiveLine line with
    | none => stop "the first request must be initialize"
    | some e =>
      keepTable database c.session e.connection.session
      log.write e.events
      if let some answer := e.answer then
        let out ← IO.getStdout
        out.putStrLn answer
        out.flush
      converse log database e.connection

def runWith (w : Surroundings) (a : CliArguments) : IO UInt32 := do
  let tree ← readTree (watchedPaths w a)
  let (p, outcome) := start w a tree
  writeChanges tree p.tree
  let log : LogTarget := ⟨w.deepest, logFile? w a⟩
  log.write p.events
  match outcome with
  | .error fault => stop fault.message
  | .ok started => converse log started.database ⟨started.session, false⟩

end PacketReplay

def main (arguments : List String) : IO UInt32 := do
  let w ← PacketReplay.surroundings
  match PacketReplay.CliArguments.read w.accessToken arguments with
  | .error .help =>
    IO.println PacketReplay.CliArguments.usage
    return 0
  | .error .misuse =>
    IO.eprintln PacketReplay.CliArguments.usage
    return 2
  | .ok a => PacketReplay.runWith w a
