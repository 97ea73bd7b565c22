import PacketReplay.History.Codec
import PacketReplay.Resend.Codec

set_option autoImplicit false

namespace PacketReplay

structure ConfigParams where
  categories : Option (List String)
deriving DecidableEq

structure DetailParams where
  packetId : Int
  includeBody : Bool
deriving DecidableEq

structure ResendParams where
  packetId : Int
  accessToken : Option String
  count : Option Int
  intervalMs : Option Int
  rules : List Rule
  async : Bool
  allowDuplicates : Bool
deriving DecidableEq

namespace ConfigParams

def toJson (p : ConfigParams) : Json :=
  .obj [("categories", Json.ofOption (fun names => .arr (names.map Json.str)) p.categories)]

def ofJson? (v : Json) : Option ConfigParams := do
  let some [categories] := v.slots ["categories"] | none
  some ⟨← categories.optionalOrAbsent (Json.list? Json.text?)⟩

end ConfigParams

namespace DetailParams

def toJson (p : DetailParams) : Json :=
  .obj [("packet_id", .int p.packetId), ("include_body", .bool p.includeBody)]

def ofJson? (v : Json) : Option DetailParams := do
  let some [id, body] := v.slots ["packet_id", "include_body"] | none
  some ⟨← id.required Json.int64?, ← body.withDefault Json.bool? false⟩

end DetailParams

namespace ResendParams

def once (packetId : Int) (accessToken : String) : ResendParams :=
  ⟨packetId, some accessToken, none, none, [], false, false⟩

def toJson (p : ResendParams) : Json :=
  .obj [("packet_id", .int p.packetId), ("access_token", Json.ofOption Json.str p.accessToken),
    ("count", Json.ofOption Json.int p.count),
    ("interval_ms", Json.ofOption Json.int p.intervalMs),
    ("modifications", .arr (p.rules.map Rule.toJson)), ("async_mode", .bool p.async),
    ("allow_duplicate_headers", .bool p.allowDuplicates)]

def ofJson? (v : Json) : Option ResendParams := do
  let some [id, token, count, interval, rules, async, duplicates] :=
    v.slots ["packet_id", "access_token", "count", "interval_ms", "modifications", "async_mode",
      "allow_duplicate_headers"] | none
  some {
    packetId := ← id.required Json.int64?
    accessToken := ← token.optionalOrAbsent Json.text?
    count := ← count.optionalOrAbsent Json.int64?
    intervalMs := ← interval.optionalOrAbsent Json.int64?
    rules := ← rules.withDefault (Json.list? Rule.ofJson?) []
    async := ← async.withDefault Json.bool? false
    allowDuplicates := ← duplicates.withDefault Json.bool? false }

end ResendParams

end PacketReplay
