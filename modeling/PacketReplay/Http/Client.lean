import PacketReplay.Http.Reference
import PacketReplay.Http.Request
import PacketReplay.Http.Response

/-!
# Sending requests

One send makes a request, and more when the server's responses lead elsewhere, ten times at most.
Nothing is sent when the URL cannot be resolved.

The network is one server, if any, that takes one request on each connection; every other address
refuses to be connected to.
-/

set_option autoImplicit false

namespace PacketReplay

inductive ServerReply where
  | bytes (b : Bytes)
  | silence
deriving DecidableEq

structure HttpServer where
  authority : String
  reply : Nat → ServerReply

structure Hop where
  method : Method
  uri : String
  scheme : String
  authority : String
  target : String
  /-- The headers, those made from the URI and the body aside. -/
  headers : Headers
  body : Bytes
deriving DecidableEq

namespace Hop

def first (r : OutboundRequest) (u : Url) (credentials : Headers) : Hop where
  method := r.method
  uri := u.withoutFragment.write
  scheme := u.scheme
  authority := match u.host with
    | some host => Url.writeHostPort host u.port
    | none => ""
  target := u.target
  headers :=
    let hs := credentials ++ sentHeaders r.headers
    if hs.has "accept" then hs else hs.add "accept" "*/*"
  body := r.body.getD []

def request (h : Hop) : HttpRequest where
  method := h.method
  target := h.target
  headers :=
    let hs := h.headers.add "host" h.authority
    if h.body.isEmpty then hs else hs.add "content-length" (toString h.body.length)
  body := h.body

/-- Whether a hop goes to a server. TLS is not spoken there. -/
def reaches (h : Hop) (s : HttpServer) : Bool :=
  h.scheme == "http" &&
    (if h.authority.contains ':' then h.authority else h.authority ++ ":80") == s.authority

def payloadHeaders : List String :=
  ["content-type", "content-length", "content-encoding", "transfer-encoding"]

def emptied (h : Hop) (method : Method) : Hop :=
  { h with method := method, body := [], headers := payloadHeaders.foldl Headers.without h.headers }

/-- What a hop becomes by a redirection; `none` when the status leads nowhere. -/
def turned? (h : Hop) (status : Nat) : Option Hop :=
  match status with
  | 301 => some (if h.method = .post then h.emptied .get else h)
  | 302 => some (if h.method = .post then h.emptied .get else h)
  | 303 => some (h.emptied (if h.method = .head then .head else .get))
  | 307 => some h
  | 308 => some h
  | _ => none

end Hop

structure Destination where
  reference : UriReference
  /-- The text, a slash standing for an empty path. -/
  text : String
deriving DecidableEq

namespace Destination

/-- Whether a text can be the authority of a request: one colon at most after the user and outside
brackets, and nothing encoded in the host. -/
def isUsable (authority : String) : Bool :=
  let cs := authority.toList
  let host := (cs.reverse.takeWhile fun c => c != '@' && c != ']').reverse
  (cs.filter (· == ':')).length ≤ 8 && (host.filter (· == ':')).length ≤ 1 && !host.contains '%' &&
    cs.getLast? != some '@'

/-- The destination that a reference names, if it can be asked for. A URI without an authority is
taken only when it looks like one. -/
def ofReference? (r : UriReference) : Option Destination :=
  match r.authority with
  | some a =>
    if a = "" ∨ !isUsable a then none
    else
      let r := { r with path := if r.path = "" then "/" else r.path, fragment := none }
      some ⟨r, r.write⟩
  | none =>
    if r.query.isNone ∧ r.fragment.isNone ∧ !r.path.contains '/' ∧ isUsable r.write then
      some ⟨r, r.write⟩
    else none

def authority (d : Destination) : String :=
  String.ofList (((d.reference.authority.getD "").toList.reverse.takeWhile (· != '@')).reverse)

def target (d : Destination) : String :=
  d.reference.path ++ match d.reference.query with
    | some q => "?" ++ q
    | none => ""

end Destination

def destination? (uri : String) (head : ResponseHead) : Option Destination := do
  let r ← UriReference.read? (← head.headers.value? "location")
  let base ← UriReference.read? uri
  Destination.ofReference? (UriReference.resolve base r)

/-- The URL without the user and the fragment, as it is told to the next server. -/
def Url.asReferer (u : Url) : String :=
  u.withoutUserinfo.withoutFragment.write

def Url.effectivePort (u : Url) : Option Nat :=
  match u.port, SchemeKind.ofScheme u.scheme with
  | some n, _ => some n
  | none, .special n => some n
  | none, _ => none

def credentialHeaders : List String :=
  ["authorization", "cookie", "cookie2", "proxy-authorization", "www-authenticate"]

def followingHeaders (hs : Headers) (previous next : Url) : Headers :=
  let isSame := next.host = previous.host ∧ next.effectivePort = previous.effectivePort
  let hs := if isSame then hs else credentialHeaders.foldl Headers.without hs
  if next.scheme = "http" ∧ previous.scheme = "https" then hs
  else (hs.without "referer").add "referer" previous.asReferer

def maxRedirects : Nat := 10

inductive Redirection where
  | stay
  | refuse (fault : SendFault)
  | go (next : Hop)

/-- What a response asks for, after a number of redirections. The URL is the one first asked for. -/
def Redirection.ofHead (url : String) (followed : Nat) (h : Hop) (head : ResponseHead) :
    Redirection :=
  match h.turned? head.status, destination? h.uri head with
  | some turned, some d =>
    match Url.parse h.uri, Url.parse d.text with
    | .ok previous, .ok next =>
      if maxRedirects ≤ followed then .refuse (.tooManyRedirects previous.write)
      else if next.scheme ≠ "http" ∧ next.scheme ≠ "https" then .refuse (.unsupported next.write)
      else .go { turned with
        uri := d.text
        scheme := next.scheme
        authority := d.authority
        target := d.target
        headers := followingHeaders turned.headers previous next }
    | _, _ => .refuse (.unsupported url)
  | _, _ => .stay

/-- What became of a send: the response or the fault, and the requests that a server saw. -/
structure SendReport where
  response : Except SendFault Response
  received : List HttpRequest

def SendReport.delivery (r : SendReport) : Delivery :=
  match r.response with
  | .ok response => .delivered response
  | .error fault => .failed fault.message

/-- Makes a request and those it leads to; the requests received before come latest first. -/
def follow (server : Option HttpServer) (url : String) :
    Nat → Nat → Hop → List HttpRequest → SendReport
  | fuel, followed, h, received =>
    match server.filter h.reaches with
    | none => ⟨.error (.unanswered url), received.reverse⟩
    | some s =>
      let now := h.request :: received
      match s.reply received.length with
      | .silence => ⟨.error (.unanswered url), now.reverse⟩
      | .bytes b =>
        match StartedResponse.ofBytes? h.method b with
        | none => ⟨.error (.unanswered url), now.reverse⟩
        | some started =>
          match fuel, Redirection.ofHead url followed h started.head with
          | fuel + 1, .go next => follow server url fuel (followed + 1) next now
          | _, .refuse fault => ⟨.error fault, now.reverse⟩
          | _, _ =>
            match started.finish? with
            | some r => ⟨.ok r, now.reverse⟩
            | none => ⟨.error .badBody, now.reverse⟩

def OutboundRequest.send (server : Option HttpServer) (r : OutboundRequest) : SendReport :=
  match r.resolvedUrl with
  | .error fault => ⟨.error fault, []⟩
  | .ok u =>
    let (u, credentials) := splitCredentials u
    if isRequestable u then
      follow server u.write (maxRedirects + 1) 0 (Hop.first r u credentials) []
    else ⟨.error (.unsupported u.write), []⟩

def writeResponse (r : Response) : Bytes :=
  textBytes ("HTTP/1.1 " ++ toString r.status.toNat ++ " -\r\n" ++
    String.join (r.headers.map fun h => h.name ++ ": " ++ h.value ++ "\r\n") ++
    "content-length: " ++ toString r.body.length ++ "\r\nconnection: close\r\n\r\n") ++ r.body

end PacketReplay
