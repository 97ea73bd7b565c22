import PacketReplay.Text.Basic
import PacketReplay.Text.Utf8
import PacketReplay.Packet.Header
import PacketReplay.Time.Instant

set_option autoImplicit false

namespace PacketReplay

inductive Method where
  | get | post | put | patch | delete | head | options | connect | trace
deriving DecidableEq

namespace Method

def name : Method → String
  | get => "GET"
  | post => "POST"
  | put => "PUT"
  | patch => "PATCH"
  | delete => "DELETE"
  | head => "HEAD"
  | options => "OPTIONS"
  | connect => "CONNECT"
  | trace => "TRACE"

def ofName? : String → Option Method
  | "GET" => some get
  | "POST" => some post
  | "PUT" => some put
  | "PATCH" => some patch
  | "DELETE" => some delete
  | "HEAD" => some head
  | "OPTIONS" => some options
  | "CONNECT" => some connect
  | "TRACE" => some trace
  | _ => none

def normalName (text : String) : String :=
  (trim text).toUpper

/-- The method a text names, or the name that is none. -/
def parse (text : String) : Except String Method :=
  match ofName? (normalName text) with
  | some m => .ok m
  | none => .error (normalName text)

def unsupported (name : String) : String :=
  "unsupported HTTP method: " ++ name

end Method

abbrev PacketId := UInt64

abbrev JobId := String

inductive Origin where
  | captured
  | resend (source : PacketId) (job : JobId) (attempt : UInt32)
deriving DecidableEq

def Origin.isResend : Origin → Bool
  | .captured => false
  | .resend .. => true

inductive OriginKind where
  | captured | resend
deriving DecidableEq

def Origin.kind : Origin → OriginKind
  | .captured => .captured
  | .resend .. => .resend

def OriginKind.name : OriginKind → String
  | .captured => "captured"
  | .resend => "resend"

structure Draft where
  method : Method
  /-- An absolute URL, or a path to be resolved against the `Host` header. -/
  url : String
  status : Option UInt16
  headers : Headers
  body : Option Bytes
  responseHeaders : Headers
  responseBody : Option Bytes
  timestamp : Instant
  origin : Origin
deriving DecidableEq

structure Record extends Draft where
  id : PacketId
deriving DecidableEq

structure Summary where
  id : PacketId
  method : Method
  url : String
  status : Option UInt16
  /-- The length of the request's body in bytes, zero when there is none. -/
  bodyLength : UInt64
  timestamp : Instant
  origin : Origin
deriving DecidableEq

/-- A draft as the store takes it, with its time cut to whole milliseconds. -/
def Draft.cut (d : Draft) : Draft :=
  { d with timestamp := d.timestamp.truncateToMillis }

def Draft.withId (d : Draft) (id : PacketId) : Record :=
  { d with id := id }

def bodyLength (body : Option Bytes) : Nat :=
  match body with
  | some b => b.length
  | none => 0

namespace Record

def summary (r : Record) : Summary where
  id := r.id
  method := r.method
  url := r.url
  status := r.status
  bodyLength := (bodyLength r.body).toUInt64
  timestamp := r.timestamp
  origin := r.origin

def withoutBodies (r : Record) : Record :=
  { r with body := none, responseBody := none }

def seen (r : Record) (includeBody : Bool) : Record :=
  if includeBody then r else r.withoutBodies

end Record

end PacketReplay
