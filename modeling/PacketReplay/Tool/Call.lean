import PacketReplay.Session.Calls

set_option autoImplicit false

namespace PacketReplay

inductive Tool where
  | getConfigs | getHistory | getPacketDetail | resendPacket
deriving DecidableEq

namespace Tool

def name : Tool → String
  | getConfigs => "get_configs"
  | getHistory => "get_history"
  | getPacketDetail => "get_packet_detail"
  | resendPacket => "resend_packet"

def all : List Tool :=
  [getConfigs, getHistory, getPacketDetail, resendPacket]

def ofName? (name : String) : Option Tool :=
  all.find? fun t => t.name == name

end Tool

inductive ToolCall where
  | configs (p : ConfigParams)
  | history (p : HistoryParams)
  | detail (p : DetailParams)
  | resend (p : ResendParams)
deriving DecidableEq

def ToolCall.ofArguments? (arguments : Json) : Tool → Option ToolCall
  | .getConfigs => (ConfigParams.ofJson? arguments).map .configs
  | .getHistory => (HistoryParams.ofJson? arguments).map .history
  | .getPacketDetail => (DetailParams.ofJson? arguments).map .detail
  | .resendPacket => (ResendParams.ofJson? arguments).map .resend

inductive ToolFault where
  | operation (e : PacketError)
  | noTool
  | badArguments
  | noMethod (method : String)
deriving DecidableEq

namespace ToolFault

def invalidParams : Int := -32602

def invalidRequest : Int := -32600

def internalError : Int := -32603

def methodNotFound : Int := -32601

def codeOf : PacketError → Int
  | .notFound _ => invalidParams
  | .invalidArgument _ => invalidParams
  | .invalidRule .. => invalidParams
  | .unauthorized _ => invalidRequest
  | .jobAborted _ => internalError
  | .storage _ => internalError

def code : ToolFault → Int
  | operation e => codeOf e
  | noTool => invalidParams
  | badArguments => invalidParams
  | noMethod _ => methodNotFound

def message : ToolFault → String
  | operation e => e.message
  | noTool => "tool not found"
  | badArguments => "failed to deserialize parameters"
  | noMethod method => method

/-- More about a fault: the kind of an operation's error, and which rule is wrong. -/
def data : ToolFault → Json
  | operation e =>
    match e with
    | .invalidRule index _ => .obj [("kind", .str e.kind), ("index", Json.ofNat index)]
    | _ => .obj [("kind", .str e.kind)]
  | _ => .null

end ToolFault

namespace Session

/-- Calls a tool; no answer when the caller would wait. -/
def call (s : Session) : ToolCall → Option (Except PacketError Json) × Session
  | .configs p => (some (.ok (.obj (s.service.config p))), s)
  | .history p => (some ((s.service.history p).map Listing.toJson), s)
  | .detail p => (some ((s.service.detail p).map Record.toJson), s)
  | .resend p =>
    let (answer, s) := s.resend p
    (answer.map fun r => r.map Outcome.toJson, s)

end Session

end PacketReplay
