import PacketReplay.Cli.Start
import PacketReplay.Tool.Server

set_option autoImplicit false

namespace PacketReplay

def attemptEvents (j : Job) : List LogEvent :=
  j.progress.packetIds.map (fun _ => .stored) ++ j.failures.map fun f =>
    if f.message.startsWith "response not stored: " then .notStored else .attemptFailed

def replyEvents : ToolReply → List LogEvent
  | .fault (.operation (.unauthorized .notConfigured)) => [.notConfigured]
  | .fault (.operation (.unauthorized .unavailable)) => [.unavailable]
  | .fault (.operation (.jobAborted _)) => [.toolFailed]
  | .fault (.operation (.storage _)) => [.toolFailed]
  | _ => []

def launchEvents (before after : Session) : List LogEvent :=
  let launched := (after.launched.toList.drop before.launched.size).filterMap after.job?
  launched.flatMap fun j => .resending :: attemptEvents j ++ [.jobFinished]

def Session.serve (s : Session) (r : ToolRequest) : ToolReply × List LogEvent × Session :=
  let (reply, after) := s.request r
  (reply, replyEvents reply ++ launchEvents s after, after)

structure Ended where
  status : Nat
  error : Option String
  replies : List ToolReply
  served : Bool
  tree : FileTree
  events : List LogEvent
  fileEvents : List LogEvent

def serveAll : List ToolRequest → Progressed → Session → List ToolReply →
    List ToolReply × Progressed × Session
  | [], p, s, done => (done.reverse, p, s)
  | r :: rest, p, s, done =>
    let (reply, events, s) := s.serve r
    serveAll rest { p with events := p.events ++ events } s (reply :: done)

/-- Runs the program on arguments and files, with the requests of a client, if there is one. The
client may look at the files first. -/
def runProgram (w : Surroundings) (arguments : List String) (tree : FileTree)
    (client : Option (FileTree → List ToolRequest)) : Ended :=
  match CliArguments.read w.accessToken arguments with
  | .error .help => ⟨0, none, [], false, tree, [], []⟩
  | .error .misuse => ⟨2, none, [], false, tree, [], []⟩
  | .ok a =>
    let finish (status : Nat) (error : Option String) (replies : List ToolReply) (served : Bool)
        (p : Progressed) : Ended :=
      let events := writtenEvents w.deepest p.events
      ⟨status, error, replies, served, p.tree, events, if a.logDir.isSome then events else []⟩
    match start w a tree with
    | (p, .error fault) => finish 1 (some ("Error: " ++ fault.message)) [] false p
    | (p, .ok started) =>
      match client with
      | none => finish 1 (some "Error") [] false p
      | some requests =>
        let (replies, p, s) := serveAll (requests p.tree) p started.session []
        let tree := match s.service.store.table with
          | some t => p.tree.write started.database (.database t)
          | none => p.tree
        finish 0 none replies true { p with tree := tree }

end PacketReplay
