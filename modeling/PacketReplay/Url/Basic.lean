import PacketReplay.Text.Utf8
import PacketReplay.Url.Address

set_option autoImplicit false

namespace PacketReplay

inductive Host where
  /-- A name, or any other text for schemes that are not special. -/
  | domain (name : String)
  | ipv4 (address : UInt32)
  | ipv6 (pieces : List Nat)
deriving DecidableEq

def Host.write : Host → String
  | domain name => name
  | ipv4 address => Ipv4.write address
  | ipv6 pieces => "[" ++ Ipv6.write pieces ++ "]"

inductive UrlPath where
  | plain (text : String)
  | segments (parts : List String)
deriving DecidableEq

def UrlPath.write : UrlPath → String
  | plain text => text
  | segments parts => String.join (parts.map fun s => "/" ++ s)

structure Url where
  scheme : String
  username : String
  password : String
  host : Option Host
  /-- The port, when it is not the scheme's own. -/
  port : Option Nat
  path : UrlPath
  query : Option String
  fragment : Option String
deriving DecidableEq

inductive UrlFault where
  | emptyHost | badDomain | badPort | badIpv4 | badIpv6 | badHostCharacter | relative
deriving DecidableEq

def UrlFault.message : UrlFault → String
  | emptyHost => "empty host"
  | badDomain => "invalid international domain name"
  | badPort => "invalid port number"
  | badIpv4 => "invalid IPv4 address"
  | badIpv6 => "invalid IPv6 address"
  | badHostCharacter => "invalid domain character"
  | relative => "relative URL without a base"

inductive SchemeKind where
  | file
  /-- One of the other schemes with a host and a hierarchy, with its port. -/
  | special (port : Nat)
  | other
deriving DecidableEq

namespace SchemeKind

def ofScheme : String → SchemeKind
  | "http" => special 80
  | "https" => special 443
  | "ws" => special 80
  | "wss" => special 443
  | "ftp" => special 21
  | "file" => file
  | _ => other

/-- Whether a backslash is as good as a slash. -/
def isSpecial : SchemeKind → Bool
  | other => false
  | _ => true

end SchemeKind

namespace Url

def writeUserinfo (u : Url) : String :=
  if u.username = "" ∧ u.password = "" then ""
  else u.username ++ (if u.password = "" then "" else ":" ++ u.password) ++ "@"

def writeHostPort (host : Host) (port : Option Nat) : String :=
  host.write ++ match port with
    | some n => ":" ++ toString n
    | none => ""

/-- The authority with the two slashes before it; two more characters keep a path apart that would
be taken for one. -/
def writeAuthority (u : Url) : String :=
  match u.host, u.path with
  | some host, _ => "//" ++ u.writeUserinfo ++ writeHostPort host u.port
  | none, .segments ("" :: _ :: _) => "/."
  | none, _ => ""

def target (u : Url) : String :=
  u.path.write ++ match u.query with
    | some q => "?" ++ q
    | none => ""

def write (u : Url) : String :=
  u.scheme ++ ":" ++ u.writeAuthority ++ u.target ++ match u.fragment with
    | some f => "#" ++ f
    | none => ""

def withoutUserinfo (u : Url) : Url :=
  { u with username := "", password := "" }

def withoutFragment (u : Url) : Url :=
  { u with fragment := none }

end Url

end PacketReplay
