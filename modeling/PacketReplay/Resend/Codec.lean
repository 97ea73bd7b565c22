import PacketReplay.Resend.Report
import PacketReplay.Packet.Codec

set_option autoImplicit false

namespace PacketReplay

namespace Rule

def toJson (r : Rule) : Json :=
  .obj ([("target", .str r.target), ("operation", .str r.operation)] ++
    Json.memberIfSome "value" Json.str r.value ++
    Json.memberIfSome "pattern" Json.str r.pattern)

def ofJson? (v : Json) : Option Rule := do
  let some [target, operation, value, pattern] :=
    v.slots ["target", "operation", "value", "pattern"] | none
  some {
    target := ← target.required Json.text?
    operation := ← operation.required Json.text?
    value := ← value.optionalOrAbsent Json.text?
    pattern := ← pattern.optionalOrAbsent Json.text? }

end Rule

namespace Policy

def name : Policy → String
  | replaceExisting => "replace_existing"
  | allowDuplicates => "allow_duplicates"

def ofName? : String → Option Policy
  | "replace_existing" => some replaceExisting
  | "allow_duplicates" => some allowDuplicates
  | _ => none

def ofJson? (v : Json) : Option Policy :=
  Json.constantName? v >>= ofName?

end Policy

namespace Mode

def name : Mode → String
  | sync => "sync"
  | async => "async"

def ofName? : String → Option Mode
  | "sync" => some sync
  | "async" => some async
  | _ => none

def ofJson? (v : Json) : Option Mode :=
  Json.constantName? v >>= ofName?

end Mode

namespace JobState

def name : JobState → String
  | pending => "pending"
  | running => "running"
  | detached => "detached"
  | completed => "completed"

def ofName? : String → Option JobState
  | "pending" => some pending
  | "running" => some running
  | "detached" => some detached
  | "completed" => some completed
  | _ => none

def ofJson? (v : Json) : Option JobState :=
  Json.constantName? v >>= ofName?

end JobState

namespace Failure

def toJson (f : Failure) : Json :=
  .obj [("attempt", Json.ofNat f.attempt.toNat), ("message", .str f.message)]

def ofJson? (v : Json) : Option Failure := do
  let some [attempt, message] := v.slots ["attempt", "message"] | none
  some ⟨← attempt.required Json.uint32?, ← message.required Json.text?⟩

end Failure

def idsToJson (ids : List PacketId) : Json :=
  .arr (ids.map fun id => Json.ofNat id.toNat)

namespace ResendResult

def toJson (r : ResendResult) : Json :=
  .obj ([("job_id", .str r.job), ("source_packet_id", Json.ofNat r.source.toNat),
      ("success", .bool r.success), ("sent_count", Json.ofNat r.sentCount.toNat),
      ("failed_count", Json.ofNat r.failedCount.toNat), ("packet_ids", idsToJson r.packetIds)] ++
    (if r.failures = [] then [] else [("failures", .arr (r.failures.map Failure.toJson))]) ++
    [("execution_time_ms", Json.ofNat r.executionTimeMs.toNat)])

def ofJson? (v : Json) : Option ResendResult := do
  let some [job, source, success, sent, failed, ids, failures, time] :=
    v.slots ["job_id", "source_packet_id", "success", "sent_count", "failed_count", "packet_ids",
      "failures", "execution_time_ms"] | none
  some {
    job := ← job.required Json.text?
    source := ← source.required Json.uint64?
    success := ← success.required Json.bool?
    sentCount := ← sent.required Json.uint32?
    failedCount := ← failed.required Json.uint32?
    packetIds := ← ids.required (Json.list? Json.uint64?)
    failures := ← failures.withDefault (Json.list? Failure.ofJson?) []
    executionTimeMs := ← time.required Json.uint64? }

end ResendResult

namespace Progress

def toJson (p : Progress) : Json :=
  .obj ([("job_id", .str p.job), ("source_packet_id", Json.ofNat p.source.toNat),
      ("state", .str p.state.name), ("count", Json.ofNat p.count.toNat),
      ("sent_count", Json.ofNat p.sentCount.toNat),
      ("failed_count", Json.ofNat p.failedCount.toNat), ("packet_ids", idsToJson p.packetIds)] ++
    Json.memberIfSome "result" ResendResult.toJson p.result)

def ofJson? (v : Json) : Option Progress := do
  let some [job, source, state, count, sent, failed, ids, result] :=
    v.slots ["job_id", "source_packet_id", "state", "count", "sent_count", "failed_count",
      "packet_ids", "result"] | none
  some {
    job := ← job.required Json.text?
    source := ← source.required Json.uint64?
    state := ← state.required JobState.ofJson?
    count := ← count.required Json.uint32?
    sentCount := ← sent.required Json.uint32?
    failedCount := ← failed.required Json.uint32?
    packetIds := ← ids.required (Json.list? Json.uint64?)
    result := ← result.optionalOrAbsent ResendResult.ofJson? }

end Progress

namespace Outcome

def toJson : Outcome → Json
  | completed result => result.toJson
  | submitted progress => progress.toJson

/-- The outcome a JSON value writes. Every part must be readable, since it is read twice. -/
def ofJson? (v : Json) : Option Outcome :=
  if v.readable then
    match ResendResult.ofJson? v with
    | some result => some (.completed result)
    | none => (Progress.ofJson? v).map .submitted
  else none

end Outcome

end PacketReplay
