import PacketReplay.Access.Gate
import PacketReplay.Config.Snapshot
import PacketReplay.Resend.Coordinator
import PacketReplay.Service.Params

set_option autoImplicit false

namespace PacketReplay

structure Service where
  coordinator : Coordinator
  trust : TrustStore
  configs : Registry
  maxCount : UInt32
  /-- The longest pause between sends, in milliseconds. -/
  maxIntervalMs : UInt64

namespace Service

def store (s : Service) : Store :=
  s.coordinator.store

def history (s : Service) (p : HistoryParams) : Except PacketError Listing := do
  let (page, filter, order) ← p.query
  s.store.list page filter order

def config (s : Service) (p : ConfigParams) : List (String × Json) :=
  s.configs.select p.categories

def packetId (raw : Int) : Except PacketError PacketId :=
  if raw < 0 then .error (.invalidArgument (.negativeId raw)) else .ok raw.toNat.toUInt64

def detail (s : Service) (p : DetailParams) : Except PacketError Record := do
  s.store.get (← packetId p.packetId) p.includeBody

/-- The job a caller asks for, once the token and the numbers have been checked, in this order: the
token, the packet id, the count, the pause. -/
def resendJob (s : Service) (p : ResendParams) : Except PacketError ResendJob := do
  s.trust.authorize p.accessToken
  let id ← packetId p.packetId
  let count := p.count.getD 1
  if count < 1 ∨ (s.maxCount.toNat : Int) < count then
    throw (.invalidArgument (.count s.maxCount.toNat count))
  let interval := p.intervalMs.getD 0
  if interval < 0 ∨ (s.maxIntervalMs.toNat : Int) < interval then
    throw (.invalidArgument (.interval s.maxIntervalMs.toNat interval))
  return {
    source := id
    count := count.toNat.toUInt32
    intervalMs := interval.toNat.toUInt64
    rules := p.rules
    policy := .ofAllow p.allowDuplicates
    mode := .ofAsync p.async }

def launch (s : Service) (id : JobId) (job : ResendJob) : Except PacketError (Nat × Service) := do
  let (number, coordinator) ← s.coordinator.launch id job
  return (number, { s with coordinator := coordinator })

end Service

end PacketReplay
