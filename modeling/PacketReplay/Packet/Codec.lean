import PacketReplay.Text.Base64
import PacketReplay.Time.Rfc3339
import PacketReplay.Packet.Record
import PacketReplay.Json.Decode

set_option autoImplicit false

namespace PacketReplay

namespace Method

def toJson (m : Method) : Json :=
  .str m.name

def ofJson? (v : Json) : Option Method :=
  Json.constantName? v >>= ofName?

end Method

namespace OriginKind

def toJson (k : OriginKind) : Json :=
  .str k.name

def ofName? : String → Option OriginKind
  | "captured" => some .captured
  | "resend" => some .resend
  | _ => none

def ofJson? (v : Json) : Option OriginKind :=
  Json.constantName? v >>= ofName?

end OriginKind

namespace Header

def toJson (h : Header) : Json :=
  .obj [("name", .str h.name), ("value", .str h.value)]

def ofJson? (v : Json) : Option Header := do
  let some [name, value] := v.slots ["name", "value"] | none
  some ⟨← name.required Json.text?, ← value.required Json.text?⟩

end Header

namespace Headers

def toJson (hs : Headers) : Json :=
  .arr (hs.map Header.toJson)

def ofJson? (v : Json) : Option Headers :=
  Json.list? Header.ofJson? v

end Headers

namespace Origin

def toJson : Origin → Json
  | .captured => .obj [("kind", .str "captured")]
  | .resend source job attempt =>
    .obj [("kind", .str "resend"), ("source_packet_id", Json.ofNat source.toNat),
      ("job_id", .str job), ("attempt", Json.ofNat attempt.toNat)]

def resendOfJson? (v : Json) : Option Origin := do
  let some [source, job, attempt] := v.slots ["source_packet_id", "job_id", "attempt"] | none
  some (.resend (← source.required Json.uint64?) (← job.required Json.text?)
    (← attempt.required Json.uint32?))

def ofKind? (kind : Json) (others : Json) : Option Origin := do
  match ← kind.text? with
  | "captured" =>
    match others with
    | .arr (_ :: _) => none
    | _ => some .captured
  | "resend" => resendOfJson? others
  | _ => none

/-- The origin a JSON value writes: an object with exactly one kind, or an array that starts with
it. Every part must be readable, since the kind may come last. -/
def ofJson? (v : Json) : Option Origin :=
  if v.readable then
    match v with
    | .obj members =>
      match Json.occurrences "kind" members with
      | [kind] => ofKind? kind (.obj (members.filter fun m => m.1 != "kind"))
      | _ => none
    | .arr (kind :: others) => ofKind? kind (.arr others)
    | _ => none
  else none

end Origin

def bodyToJson (b : Bytes) : Json :=
  match bytesText? b with
  | some text => .obj [("encoding", .str "utf8"), ("data", .str text)]
  | none => .obj [("encoding", .str "base64"), ("data", .str (Base64.encode b))]

def decodeBody? (encoding data : String) : Option Bytes :=
  match encoding with
  | "utf8" => some (textBytes data)
  | "base64" => Base64.decode? data
  | _ => none

def bodyOfJson? (v : Json) : Option Bytes := do
  let some [encoding, data] := v.slots ["encoding", "data"] | none
  decodeBody? (← encoding.required Json.constantName?) (← data.required Json.text?)

def Instant.toJson (t : Instant) : Json :=
  .str (Rfc3339.write t)

def Instant.ofJson? (v : Json) : Option Instant :=
  v.text? >>= Rfc3339.read?

def statusToJson : Option UInt16 → Json :=
  Json.ofOption fun s => Json.ofNat s.toNat

namespace Record

def toJson (r : Record) : Json :=
  .obj ([("id", Json.ofNat r.id.toNat), ("method", r.method.toJson), ("url", .str r.url),
      ("status", statusToJson r.status), ("headers", Headers.toJson r.headers)] ++
    Json.memberIfSome "body" bodyToJson r.body ++
    [("response_headers", Headers.toJson r.responseHeaders)] ++
    Json.memberIfSome "response_body" bodyToJson r.responseBody ++
    [("timestamp", r.timestamp.toJson), ("origin", r.origin.toJson)])

def fieldNames : List String :=
  ["id", "method", "url", "status", "headers", "body", "response_headers", "response_body",
    "timestamp", "origin"]

def ofJson? (v : Json) : Option Record := do
  let some [id, method, url, status, headers, body, responseHeaders, responseBody, timestamp,
    origin] := v.slots fieldNames | none
  some {
    id := ← id.required Json.uint64?
    method := ← method.required Method.ofJson?
    url := ← url.required Json.text?
    status := ← status.optional Json.uint16?
    headers := ← headers.required Headers.ofJson?
    body := ← body.optionalOrAbsent bodyOfJson?
    responseHeaders := ← responseHeaders.withDefault Headers.ofJson? []
    responseBody := ← responseBody.optionalOrAbsent bodyOfJson?
    timestamp := ← timestamp.required Instant.ofJson?
    origin := ← origin.withDefault Origin.ofJson? .captured }

end Record

namespace Summary

def toJson (s : Summary) : Json :=
  .obj [("id", Json.ofNat s.id.toNat), ("method", s.method.toJson), ("url", .str s.url),
    ("status", statusToJson s.status), ("body_length", Json.ofNat s.bodyLength.toNat),
    ("timestamp", s.timestamp.toJson), ("origin", s.origin.toJson)]

def ofJson? (v : Json) : Option Summary := do
  let some [id, method, url, status, length, timestamp, origin] :=
    v.slots ["id", "method", "url", "status", "body_length", "timestamp", "origin"] | none
  some {
    id := ← id.required Json.uint64?
    method := ← method.required Method.ofJson?
    url := ← url.required Json.text?
    status := ← status.optional Json.uint16?
    bodyLength := ← length.required Json.uint64?
    timestamp := ← timestamp.required Instant.ofJson?
    origin := ← origin.required Origin.ofJson? }

end Summary

end PacketReplay
