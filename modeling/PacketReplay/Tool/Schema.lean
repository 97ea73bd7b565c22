import PacketReplay.Tool.Call

set_option autoImplicit false

namespace PacketReplay.Tool

def description : Tool → String
  | getHistory =>
    "List captured packets (without bodies) ordered by id. Supports limit (default 100, max " ++
    "1000), offset, and optional method, url_contains, status range, origin and order filters."
  | getConfigs =>
    "Get proxy configuration by category (e.g. listenPorts, servers). Empty or \"all\" returns " ++
    "every category; unknown names are ignored."
  | getPacketDetail =>
    "Fetch one packet by id including headers. Request and response bodies are included only " ++
    "when include_body is true."
  | resendPacket =>
    "Resend a captured packet, optionally modified, count times with interval_ms between sends. " ++
    "Requires access_token. With async_mode the call returns a job id immediately."

def isReadOnly : Tool → Bool
  | resendPacket => false
  | _ => true

def described (text : String) : String × Json :=
  ("description", .str text)

def typed (name : String) : List (String × Json) :=
  [("type", .str name)]

def integer : List (String × Json) :=
  ("format", .str "int64") :: typed "integer"

def nullable (schema : List (String × Json)) : List (String × Json) :=
  ("nullable", .bool true) :: schema

def defaulting (default : Json) (schema : List (String × Json)) : List (String × Json) :=
  ("default", default) :: schema

def optionally (schema : List (String × Json)) : List (String × Json) :=
  defaulting .null (nullable schema)

def field (name text : String) (schema : List (String × Json)) : String × Json :=
  (name, .obj (described text :: schema))

def object (text : String) (fields : List (String × Json)) (required : List String) :
    List (String × Json) :=
  [described text, ("type", .str "object"), ("properties", .obj fields)] ++
    (if required.isEmpty then [] else [("required", .arr (required.map Json.str))])

def ruleSchema : Json :=
  .obj (object
    ("One declarative edit as supplied by the caller.\n\n" ++
      "\x60target\x60 is \x60header:<Name>\x60, \x60url\x60, \x60body\x60 or \x60method\x60; " ++
      "\x60operation\x60 is\n\x60set\x60, \x60add\x60, \x60remove\x60, \x60replace\x60 or " ++
      "\x60regex_replace\x60. Both are kept as text so a malformed\n" ++
      "rule can be reported together with its position in the list.")
    [field "target" "Field to edit: \"header:<Name>\", \"url\", \"body\" or \"method\""
      (typed "string"),
    field "operation"
      "Edit to perform: \"set\", \"add\", \"remove\", \"replace\" or \"regex_replace\""
      (typed "string"),
    field "value" "New content; omitted for \"remove\"" (nullable (typed "string")),
    field "pattern"
      ("Text to look for: literal for \"replace\", a regular expression for\n" ++
        "\"regex_replace\" (\x60$1\x60 in \x60value\x60 refers to capture groups)")
      (nullable (typed "string"))]
    ["target", "operation"])

def schemaTitle : Tool → String
  | getConfigs => "ConfigParams"
  | getHistory => "HistoryParams"
  | getPacketDetail => "PacketDetailParams"
  | resendPacket => "ResendParams"

def argumentSchema : Tool → List (String × Json)
  | getConfigs => object "Parameters for \x60get_configs\x60"
    [field "categories"
      ("Categories to return, e.g. \"listenPorts\", \"servers\"; empty or \"all\" for everything")
      (optionally (("items", .obj (typed "string")) :: typed "array"))] []
  | getHistory => object "Parameters for \x60get_history\x60"
    [field "limit" "Maximum number of packets to return (default: 100, max: 1000)"
      (optionally integer),
    field "offset" "Number of packets to skip (default: 0)" (optionally integer),
    field "method" "Only packets with this HTTP method" (optionally (typed "string")),
    field "url_contains" "Only packets whose URL contains this text (case-insensitive)"
      (optionally (typed "string")),
    field "status_min" "Minimum response status (inclusive)" (optionally integer),
    field "status_max" "Maximum response status (inclusive)" (optionally integer),
    field "origin" "\"captured\" or \"resend\"" (optionally (typed "string")),
    field "order" "\"id asc\" (default) or \"id desc\"" (optionally (typed "string"))] []
  | getPacketDetail => object "Parameters for \x60get_packet_detail\x60"
    [field "packet_id" "Packet id as returned by get_history" integer,
    field "include_body" "Include request and response bodies (default: false)"
      (defaulting (.bool false) (typed "boolean"))] ["packet_id"]
  | resendPacket => object "Parameters for \x60resend_packet\x60"
    [field "packet_id" "Packet to resend" integer,
    field "access_token" "Access token authorizing the resend" (optionally (typed "string")),
    field "count" "Number of times to send (default: 1)" (optionally integer),
    field "interval_ms" "Milliseconds to wait between sends (default: 0)" (optionally integer),
    field "modifications" "Edits applied, in order, before sending"
      (defaulting (.arr []) (("items", .obj [("$ref", .str "#/$defs/ModificationRule")]) ::
        typed "array")),
    field "async_mode" "Return immediately with a job id instead of waiting (default: false)"
      (defaulting (.bool false) (typed "boolean")),
    field "allow_duplicate_headers"
      "Let \"add\" append a header that already exists (default: false)"
      (defaulting (.bool false) (typed "boolean"))] ["packet_id"] ++
    [("$defs", .obj [("ModificationRule", ruleSchema)])]

def dialect : String :=
  "https:" ++ "//json-schema.org/draft/2020-12/schema"

def listing (t : Tool) : Json :=
  .obj [("name", .str t.name), ("description", .str t.description),
    ("inputSchema", .obj ([("$schema", .str dialect),
      ("title", .str t.schemaTitle)] ++ t.argumentSchema)),
    ("annotations", .obj [("readOnlyHint", .bool t.isReadOnly),
      ("destructiveHint", .bool !t.isReadOnly)])]

end PacketReplay.Tool
