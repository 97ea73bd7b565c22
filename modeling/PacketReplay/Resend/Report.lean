import PacketReplay.Packet.Record
import PacketReplay.Edit.Basic

set_option autoImplicit false

namespace PacketReplay

structure OutboundRequest where
  method : Method
  /-- An absolute URL, or a path to be resolved against the `Host` header. -/
  url : String
  headers : Headers
  body : Option Bytes
deriving DecidableEq

def OutboundRequest.ofRecord (r : Record) : OutboundRequest :=
  ⟨r.method, r.url, r.headers, r.body⟩

structure Response where
  status : UInt16
  headers : Headers
  body : Bytes
deriving DecidableEq

inductive Delivery where
  | delivered (response : Response)
  | failed (message : String)
deriving DecidableEq

inductive Mode where
  | sync
  | async
deriving DecidableEq

def Mode.ofAsync (async : Bool) : Mode :=
  if async then .async else .sync

/-- What to resend, and how. A pause is asked for in whole milliseconds, and in no other way. -/
structure ResendJob where
  source : PacketId
  count : UInt32
  intervalMs : UInt64
  rules : List Rule
  policy : Policy
  mode : Mode
deriving DecidableEq

def ResendJob.once (source : PacketId) : ResendJob :=
  ⟨source, 1, 0, [], .replaceExisting, .sync⟩

structure Failure where
  attempt : UInt32
  message : String
deriving DecidableEq

structure ResendResult where
  job : JobId
  source : PacketId
  success : Bool
  sentCount : UInt32
  failedCount : UInt32
  packetIds : List PacketId
  failures : List Failure
  executionTimeMs : UInt64
deriving DecidableEq

inductive JobState where
  | pending
  | running
  | detached
  | completed
deriving DecidableEq

structure Progress where
  job : JobId
  source : PacketId
  state : JobState
  count : UInt32
  sentCount : UInt32
  failedCount : UInt32
  packetIds : List PacketId
  result : Option ResendResult
deriving DecidableEq

def Progress.pending (job : JobId) (source : PacketId) (count : UInt32) : Progress :=
  ⟨job, source, .pending, count, 0, 0, [], none⟩

inductive Outcome where
  | completed (result : ResendResult)
  | submitted (progress : Progress)
deriving DecidableEq

def Outcome.job : Outcome → JobId
  | completed result => result.job
  | submitted progress => progress.job

end PacketReplay
