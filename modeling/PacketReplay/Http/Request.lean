import PacketReplay.Packet.Header
import PacketReplay.Resend.Report
import PacketReplay.Text.Base64
import PacketReplay.Url.Parser

/-!
# From stored requests to requests on the wire

A stored request may have a path instead of a URL; its `Host` header then says where it goes, and
the port 443 that it goes there over TLS. Headers that follow from the URL and the body are dropped
and made anew, headers that cannot be sent are skipped, and all others are kept, in order and as
often as they occur.
-/

set_option autoImplicit false

namespace PacketReplay

inductive SendFault where
  | noHost (path : String)
  | badUrl (text : String) (fault : UrlFault)
  | unsupported (url : String)
  | unanswered (url : String)
  | tooManyRedirects (url : String)
  | badBody
deriving DecidableEq

def SendFault.message : SendFault → String
  | noHost path => "cannot resolve '" ++ path ++ "' without a Host header"
  | badUrl text fault => "invalid url '" ++ text ++ "': " ++ fault.message
  | unsupported url => "builder error for url (" ++ url ++ ")"
  | unanswered url => "error sending request for url (" ++ url ++ ")"
  | tooManyRedirects url => "error following redirect for url (" ++ url ++ ")"
  | badBody => "reading response body: error decoding response body"

/-- The headers that are made anew for every request. -/
def recomputedHeaders : List String :=
  ["host", "content-length", "transfer-encoding"]

def forwardedHeaders (hs : Headers) : Headers :=
  hs.filter fun h => !recomputedHeaders.any fun name => h.named name

def Header.isSendable (h : Header) : Bool :=
  isHeaderName h.name && isHeaderValue h.value

/-- The headers that are passed on and can be sent, with names in lower case. -/
def sentHeaders (hs : Headers) : Headers :=
  ((forwardedHeaders hs).filter Header.isSendable).map fun h => ⟨h.name.toLower, h.value⟩

namespace OutboundRequest

def absoluteUrl (r : OutboundRequest) : Except SendFault String :=
  if r.url.startsWith "/" then
    match (r.headers.value? "host").map trim with
    | none => .error (.noHost r.url)
    | some "" => .error (.noHost r.url)
    | some host =>
      .ok ((if host.endsWith ":443" then "https" else "http") ++ "://" ++ host ++ r.url)
  else .ok r.url

def resolvedUrl (r : OutboundRequest) : Except SendFault Url := do
  let text ← r.absoluteUrl
  match Url.parse text with
  | .ok u => return u
  | .error fault => throw (.badUrl text fault)

end OutboundRequest

def basicCredentials (username password : String) : String :=
  "Basic " ++ Base64.encode (textBytes (username ++ ":" ++ password))

def decodedText? (s : String) : Option String :=
  bytesText? (Percent.decode (textBytes s))

/-- A URL without the user it names, and the header that names the user instead. -/
def splitCredentials (u : Url) : Url × Headers :=
  match decodedText? u.username with
  | none => (u, [])
  | some username =>
    let password := if u.password = "" then none else decodedText? u.password
    if username = "" ∧ password = none then (u, [])
    else (u.withoutUserinfo,
      [⟨"authorization", basicCredentials username (password.getD "")⟩])

/-- Whether a URL can be asked for: its host has only characters that a request may have. -/
def isRequestable (u : Url) : Bool :=
  (u.scheme == "http" || u.scheme == "https") && u.write.utf8ByteSize < 65535 &&
    match u.host with
    | some (.domain name) => name.toList.all fun c =>
      !(['\x22', '\x60', '\x7b', '\x7d'].contains c)
    | some _ => true
    | none => false

structure HttpRequest where
  method : Method
  target : String
  headers : Headers
  body : Bytes
deriving DecidableEq

def HttpRequest.line (r : HttpRequest) : String :=
  r.method.name ++ " " ++ r.target ++ " HTTP/1.1"

end PacketReplay
