import PacketReplay.Cli.Program

set_option autoImplicit false

namespace PacketReplay

inductive ClientMessage where
  | request (id : Json) (r : ToolRequest)
  | notice (method : String)

namespace ClientMessage

def id? : Json → Option Json
  | .int n => some (.int n)
  | .str s => some (.str s)
  | _ => none

def ofJson? (v : Json) : Option ClientMessage := do
  let dialect ← v.get? "jsonrpc" >>= Json.text?
  if dialect ≠ "2.0" then none
  let method ← v.get? "method" >>= Json.text?
  match v.get? "id" with
  | none => some (.notice method)
  | some id => some (.request (← id? id) ⟨method, v.get? "params"⟩)

def ofLine? (line : String) : Option ClientMessage :=
  Json.parseText line >>= ofJson?

end ClientMessage

def ToolFault.toJson (f : ToolFault) : Json :=
  .obj ([("code", .int f.code), ("message", .str f.message)] ++
    match f.data with
    | .null => []
    | data => [("data", data)])

def ToolReply.answer? (id : Json) : ToolReply → Option Json
  | .result v => some (.obj [("jsonrpc", .str "2.0"), ("id", id), ("result", v)])
  | .fault f => some (.obj [("jsonrpc", .str "2.0"), ("id", id), ("error", f.toJson)])
  | .ignored => none
  | .pending => none

structure Connection where
  session : Session
  introduced : Bool

structure Exchange where
  answer : Option String
  events : List LogEvent
  connection : Connection

namespace Connection

def isIntroductory : ClientMessage → Bool
  | .request _ r => r.method == "initialize" || r.method == "ping"
  | .notice _ => false

/-- Takes a message; `none` closes the connection. -/
def receive (c : Connection) (m : ClientMessage) : Option Exchange :=
  if !c.introduced && !isIntroductory m then none
  else
    match m with
    | .notice _ => some ⟨none, [], c⟩
    | .request id r =>
      let (reply, events, session) := c.session.serve r
      let answer := reply.answer? id
      let introduced := c.introduced || (r.method == "initialize" && answer.isSome)
      some ⟨answer.map Json.compact, events, ⟨session, introduced⟩⟩

/-- Takes a line; one that is no message is passed over. -/
def receiveLine (c : Connection) (line : String) : Option Exchange :=
  match ClientMessage.ofLine? line with
  | some m => c.receive m
  | none => some ⟨none, [], c⟩

end Connection

end PacketReplay
