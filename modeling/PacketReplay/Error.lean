import PacketReplay.Packet.Record

set_option autoImplicit false

namespace PacketReplay

def maxPageLimit : Nat := 1000

def defaultPageLimit : Nat := 100

inductive ArgumentFault where
  | negativeLimit (limit : Int)
  | limitTooLarge (limit : Int)
  | negativeOffset (offset : Int)
  | unknownOrder (text : String)
  | unknownMethod (name : String)
  | unknownOrigin (text : String)
  /-- A bound on the status that is no status; the bound's name comes first. -/
  | statusBound (bound : String) (value : Int)
  | emptyStatusRange (low high : Nat)
  | negativeId (id : Int)
  /-- A number of sends that is not from one to the most allowed. -/
  | count (most : Nat) (value : Int)
  | zeroCount
  | interval (longest : Nat) (value : Int)
  | other (text : String)
deriving DecidableEq

inductive Operation where
  | set | add | remove | replace | regexReplace
deriving DecidableEq

def Operation.name : Operation → String
  | set => "set"
  | add => "add"
  | remove => "remove"
  | replace => "replace"
  | regexReplace => "regex_replace"

inductive RuleFault where
  | unknownOperation (text : String)
  | missingValue (operation : String)
  | missingPattern (operation : Operation)
  | headerName (name : String)
  | headerValue
  /-- The operation does not apply to the kind of target, given in words. -/
  | notSupported (operation : Operation) (target : String)
  | emptyUrl
  | badPattern
  | unknownMethod (name : String)
  | unknownTarget (text : String)
  | other (text : String)
deriving DecidableEq

inductive AccessFault where
  | tokenRequired
  | notConfigured
  | unavailable
  | wrongToken
  | other (text : String)
deriving DecidableEq

inductive PacketError where
  | notFound (id : PacketId)
  | invalidArgument (fault : ArgumentFault)
  | invalidRule (index : Nat) (fault : RuleFault)
  | unauthorized (fault : AccessFault)
  | jobAborted (job : JobId)
  /-- The storage failed; the causes from the outermost to the innermost. -/
  | storage (causes : List String)
deriving DecidableEq

namespace ArgumentFault

def message : ArgumentFault → String
  | negativeLimit n => "limit must be non-negative, got " ++ toString n
  | limitTooLarge n => "limit must not exceed " ++ toString maxPageLimit ++ ", got " ++ toString n
  | negativeOffset n => "offset must be non-negative, got " ++ toString n
  | unknownOrder text => "invalid order '" ++ text ++ "', expected 'id asc' or 'id desc'"
  | unknownMethod name => Method.unsupported name
  | unknownOrigin text => "invalid origin '" ++ text ++ "', expected 'captured' or 'resend'"
  | statusBound bound value => bound ++ " must be between 0 and 999, got " ++ toString value
  | emptyStatusRange low high =>
    "status_min (" ++ toString low ++ ") is greater than status_max (" ++ toString high ++ ")"
  | negativeId id => "packet_id must be non-negative, got " ++ toString id
  | count most value =>
    "count must be between 1 and " ++ toString most ++ ", got " ++ toString value
  | zeroCount => "count must be at least 1"
  | interval longest value =>
    "interval_ms must be between 0 and " ++ toString longest ++ ", got " ++ toString value
  | other text => text

end ArgumentFault

namespace RuleFault

/-- What is said of the fault. Of a bad pattern only the start: what follows it after a colon is in the
words of whatever reads patterns, and is left out. -/
def message : RuleFault → String
  | unknownOperation text => "unknown operation '" ++ text ++ "'"
  | missingValue operation => "'" ++ operation ++ "' requires a value"
  | missingPattern operation => "'" ++ operation.name ++ "' requires a non-empty pattern"
  | headerName name => "invalid header name '" ++ name ++ "'"
  | headerValue => "header value contains forbidden characters"
  | notSupported operation target =>
    "'" ++ operation.name ++ "' is not supported for " ++ target
  | emptyUrl => "url must not be empty"
  | badPattern => "invalid pattern"
  | unknownMethod name => Method.unsupported name
  | unknownTarget text => "unknown target '" ++ text ++ "'"
  | other text => text

end RuleFault

namespace AccessFault

def message : AccessFault → String
  | tokenRequired => "access token required"
  | notConfigured => "access control not configured"
  | unavailable => "trust store unavailable"
  | wrongToken => "invalid access token"
  | other text => text

end AccessFault

namespace PacketError

/-- The name of the reason, the same for every version of the texts. -/
def kind : PacketError → String
  | notFound _ => "not_found"
  | invalidArgument _ => "invalid_argument"
  | invalidRule .. => "invalid_rule"
  | unauthorized _ => "unauthorized"
  | jobAborted _ => "job_aborted"
  | storage _ => "storage"

def message : PacketError → String
  | notFound id => "packet " ++ toString id.toNat ++ " not found"
  | invalidArgument fault => "invalid argument: " ++ fault.message
  | invalidRule index fault =>
    "invalid modification rule at index " ++ toString index ++ ": " ++ fault.message
  | unauthorized fault => "unauthorized: " ++ fault.message
  | jobAborted job => "resend job " ++ job ++ " aborted before completion"
  | storage causes => "storage error: " ++ ": ".intercalate causes

end PacketError

end PacketReplay
