import PacketReplay.Store.Cell
import PacketReplay.History.Codec
import PacketReplay.Json.Reader
import PacketReplay.Json.Printer

set_option autoImplicit false

namespace PacketReplay

structure Row where
  id : Int
  capturedAt : Cell
  method : Cell
  url : Cell
  status : Cell
  headers : Cell
  body : Cell
  bodyLength : Cell
  responseHeaders : Cell
  responseBody : Cell
  originKind : Cell
  origin : Cell
deriving DecidableEq

inductive Column where
  | capturedAt | method | url | status | headers | body | bodyLength | responseHeaders
  | responseBody | originKind | origin
deriving DecidableEq

namespace Column

def name : Column → String
  | capturedAt => "captured_at"
  | method => "method"
  | url => "url"
  | status => "status"
  | headers => "headers"
  | body => "body"
  | bodyLength => "body_length"
  | responseHeaders => "response_headers"
  | responseBody => "response_body"
  | originKind => "origin_kind"
  | origin => "origin"

def all : List Column :=
  [capturedAt, method, url, status, headers, body, bodyLength, responseHeaders, responseBody,
    originKind, origin]

def ofName? (name : String) : Option Column :=
  all.find? fun c => c.name == name

def affinity : Column → Affinity
  | capturedAt => .integer
  | status => .integer
  | bodyLength => .integer
  | body => .blob
  | responseBody => .blob
  | _ => .text

def isNullable : Column → Bool
  | status => true
  | body => true
  | responseBody => true
  | _ => false

end Column

namespace Row

def get (r : Row) : Column → Cell
  | .capturedAt => r.capturedAt
  | .method => r.method
  | .url => r.url
  | .status => r.status
  | .headers => r.headers
  | .body => r.body
  | .bodyLength => r.bodyLength
  | .responseHeaders => r.responseHeaders
  | .responseBody => r.responseBody
  | .originKind => r.originKind
  | .origin => r.origin

def set (r : Row) (c : Cell) : Column → Row
  | .capturedAt => { r with capturedAt := c }
  | .method => { r with method := c }
  | .url => { r with url := c }
  | .status => { r with status := c }
  | .headers => { r with headers := c }
  | .body => { r with body := c }
  | .bodyLength => { r with bodyLength := c }
  | .responseHeaders => { r with responseHeaders := c }
  | .responseBody => { r with responseBody := c }
  | .originKind => { r with originKind := c }
  | .origin => { r with origin := c }

def ofDraft (id : Int) (d : Draft) : Row where
  id := id
  capturedAt := .int d.timestamp.toMillis
  method := .text d.method.name
  url := .text d.url
  status := .ofOption (fun s => .int s.toNat) d.status
  headers := .text (Headers.toJson d.headers).compact
  body := .ofOption .blob d.body
  bodyLength := .int (PacketReplay.bodyLength d.body)
  responseHeaders := .text (Headers.toJson d.responseHeaders).compact
  responseBody := .ofOption .blob d.responseBody
  originKind := .text d.origin.kind.name
  origin := .text (Origin.toJson d.origin).compact

def read {α : Type} (r : Row) (c : Column) (f : Cell → Option α) : Except String α :=
  match f (r.get c) with
  | some a => .ok a
  | none => .error ("invalid column type: " ++ c.name)

def readJson {α : Type} (c : Column) (decode : Json → Option α) (text : String) :
    Except String α :=
  match Json.parseText text >>= decode with
  | some a => .ok a
  | none => .error ("invalid JSON in column: " ++ c.name)

def readMethod (text : String) : Except String Method :=
  match Method.parse text with
  | .ok m => .ok m
  | .error name => .error (Method.unsupported name)

def readTime (ms : Int) : Except String Instant :=
  match Instant.ofMillis? ms with
  | some t => .ok t
  | none => .error ("invalid stored timestamp " ++ toString ms)

def packetId (r : Row) : PacketId :=
  UInt64.ofNat (r.id % 0x10000000000000000).toNat

def statusBits (n : Int) : UInt16 :=
  (n % 0x10000).toNat.toUInt16

def summary (r : Row) : Except String Summary := do
  let ms ← r.read .capturedAt Cell.int?
  let method ← r.read .method Cell.text?
  let status ← r.read .status Cell.nullableInt?
  let length ← r.read .bodyLength Cell.int?
  let origin ← r.read .origin Cell.text?
  let method ← readMethod method
  let url ← r.read .url Cell.text?
  let timestamp ← readTime ms
  let origin ← readJson .origin Origin.ofJson? origin
  return { id := r.packetId, method, url, status := status.map statusBits,
           bodyLength := length.toNat.toUInt64, timestamp, origin }

/-- A body's cell, read only when the bodies are wanted. -/
def readBody (r : Row) (includeBody : Bool) (c : Column) : Except String (Option Bytes) :=
  if includeBody then r.read c Cell.nullableBlob? else .ok none

def record (r : Row) (includeBody : Bool) : Except String Record := do
  let ms ← r.read .capturedAt Cell.int?
  let method ← r.read .method Cell.text?
  let status ← r.read .status Cell.nullableInt?
  let headers ← r.read .headers Cell.text?
  let responseHeaders ← r.read .responseHeaders Cell.text?
  let origin ← r.read .origin Cell.text?
  let method ← readMethod method
  let url ← r.read .url Cell.text?
  let headers ← readJson .headers Headers.ofJson? headers
  let body ← r.readBody includeBody .body
  let responseHeaders ← readJson .responseHeaders Headers.ofJson? responseHeaders
  let responseBody ← r.readBody includeBody .responseBody
  let timestamp ← readTime ms
  let origin ← readJson .origin Origin.ofJson? origin
  return { id := r.packetId, method, url, status := status.map statusBits, headers, body,
           responseHeaders, responseBody, timestamp, origin }

end Row

end PacketReplay
