import PacketReplay.Config.Settings
import PacketReplay.Tool.Schema

set_option autoImplicit false

namespace PacketReplay

structure ToolRequest where
  method : String
  params : Option Json

namespace ToolRequest

def call (name : String) (arguments : Option Json) : ToolRequest :=
  ⟨"tools/call", some (.obj (("name", .str name) :: Json.memberIfSome "arguments" id arguments))⟩

end ToolRequest

inductive ToolReply where
  | result (v : Json)
  | fault (f : ToolFault)
  /-- The request is not understood, and not answered. -/
  | ignored
  /-- The caller waits for a send that is not permitted. -/
  | pending

namespace ToolReply

def ofText (text : String) : ToolReply :=
  .result (.obj [("content", .arr [.obj [("type", .str "text"), ("text", .str text)]]),
    ("isError", .bool false)])

def ofValue (v : Json) : ToolReply :=
  ofText v.pretty

def ofAnswer : Option (Except PacketError Json) → ToolReply
  | some (.ok v) => ofValue v
  | some (.error e) => .fault (.operation e)
  | none => .pending

end ToolReply

namespace Session

def callTool (s : Session) (name : String) (arguments : Json) : ToolReply × Session :=
  match Tool.ofName? name with
  | none => (.fault .noTool, s)
  | some tool =>
    match ToolCall.ofArguments? arguments tool with
    | none => (.fault .badArguments, s)
    | some c =>
      let (answer, s) := s.call c
      (.ofAnswer answer, s)

end Session

def serverInfo : Json :=
  .obj [("protocolVersion", .str "2025-03-26"),
    ("capabilities", .obj [("tools", .obj [])]),
    ("serverInfo", .obj [("name", .str "packetproxy"), ("title", .str "PacketProxy MCP Server"),
      ("version", .str version)]),
    ("instructions", .str
      ("PacketProxy packet store. Use get_history and get_packet_detail to inspect " ++
        "captured traffic, get_configs to read proxy settings, and resend_packet " ++
        "(access token required) to replay a request with optional modifications."))]

def Json.isObject : Json → Bool
  | .obj _ => true
  | _ => false

def Json.hasText (v : Json) (name : String) : Bool :=
  ((v.get? name).bind Json.text?).isSome

def Json.optionallyHas (v : Json) (name : String) (test : Json → Bool) : Bool :=
  match v.get? name with
  | none => true
  | some .null => true
  | some w => test w

def isListRequest (params : Option Json) : Bool :=
  match params with
  | none => true
  | some .null => true
  | some v => v.isObject && v.optionallyHas "cursor" fun w => w.text?.isSome

def logLevels : List String :=
  ["debug", "info", "notice", "warning", "error", "critical", "alert", "emergency"]

def isCompletable (v : Json) : Bool :=
  match (v.get? "type").bind Json.text? with
  | some "ref/resource" => v.hasText "uri"
  | some "ref/prompt" => v.hasText "name"
  | _ => false

def isReadable (method : String) (v : Json) : Bool :=
  v.isObject && match method with
  | "prompts/get" =>
    v.hasText "name" && v.optionallyHas "arguments" Json.isObject
  | "resources/read" => v.hasText "uri"
  | "resources/subscribe" => v.hasText "uri"
  | "resources/unsubscribe" => v.hasText "uri"
  | "logging/setLevel" => ((v.get? "level").bind Json.text?).any fun l => logLevels.contains l
  | "completion/complete" =>
    ((v.get? "ref").any isCompletable) &&
      (v.get? "argument").any fun a => a.hasText "name" && a.hasText "value"
  | _ => false

def isIntroduction (v : Json) : Bool :=
  v.hasText "protocolVersion" && (v.get? "capabilities").any Json.isObject &&
    (v.get? "clientInfo").any fun c => c.hasText "name" && c.hasText "version"

namespace Session

/-- What comes of a request. The arguments of a tool are a map when they are decoded: a member given
twice has its last value. -/
def request (s : Session) (r : ToolRequest) : ToolReply × Session :=
  let v := r.params.getD .null
  match r.method with
  | "tools/call" =>
    match (v.get? "name").bind Json.text? with
    | none => (.ignored, s)
    | some name =>
      match v.get? "arguments" with
      | none => s.callTool name (.obj [])
      | some .null => s.callTool name (.obj [])
      | some (.obj arguments) => s.callTool name (Json.obj arguments).canonical
      | some _ => (.ignored, s)
  | "ping" => (.result (.obj []), s)
  | "initialize" => (if isIntroduction v then .result serverInfo else .ignored, s)
  | "tools/list" =>
    (if isListRequest r.params then .result (.obj [("tools", .arr (Tool.all.map Tool.listing))])
      else .ignored, s)
  | "prompts/list" =>
    (if isListRequest r.params then .result (.obj [("prompts", .arr [])]) else .ignored, s)
  | "resources/list" =>
    (if isListRequest r.params then .result (.obj [("resources", .arr [])]) else .ignored, s)
  | "resources/templates/list" =>
    (if isListRequest r.params then .result (.obj [("resourceTemplates", .arr [])])
      else .ignored, s)
  | method => (if isReadable method v then .fault (.noMethod method) else .ignored, s)

end Session

end PacketReplay
