import PacketReplay.Proofs.HeldValues
import PacketReplay.Proofs.PacketText
import PacketReplay.Resend.Codec

set_option autoImplicit false

namespace PacketReplay

theorem JobState.ofJson?_name (s : JobState) : JobState.ofJson? (.str s.name) = some s := by
  cases s <;> rfl

theorem Failure.ofJson?_toJson (f : Failure) : Failure.ofJson? f.toJson = some f := by
  have hslots : f.toJson.slots ["attempt", "message"] =
      some [.given (Json.ofNat f.attempt.toNat), .given (.str f.message)] := rfl
  rw [Failure.ofJson?, hslots]
  simp only [Option.bind_eq_bind, Option.bind_some, Json.Slot.required, Json.uint32?_ofNat,
    Json.text?]

theorem list?_idsToJson (ids : List PacketId) :
    Json.list? Json.uint64? (idsToJson ids) = some ids :=
  Json.list?_map (fun id : PacketId => Json.ofNat id.toNat) Json.uint64? Json.uint64?_ofNat ids

def failuresSlot (failures : List Failure) : Json.Slot :=
  if failures = [] then .unnamed else .given (.arr (failures.map Failure.toJson))

theorem withDefault_failuresSlot (failures : List Failure) :
    (failuresSlot failures).withDefault (Json.list? Failure.ofJson?) [] = some failures := by
  cases failures with
  | nil => rfl
  | cons f fs =>
    exact Json.list?_map Failure.toJson Failure.ofJson? Failure.ofJson?_toJson (f :: fs)

section

variable (depth : Nat)

theorem legible_uint32 (n : UInt32) : Json.Legible depth (Json.ofNat n.toNat) :=
  Json.legible_ofNat n.toNat (n.toNat_lt.trans (by decide)) depth

theorem legible_idsToJson (ids : List PacketId) (h : depth + 1 ≤ Json.maxDepth) :
    Json.Legible depth (idsToJson ids) :=
  Json.legible_map (fun id : PacketId => Json.ofNat id.toNat) depth (by omega)
    (fun id => Json.legible_ofNat id.toNat id.toNat_lt (depth + 1)) ids

theorem legible_failures (failures : List Failure) (h : depth + 2 ≤ Json.maxDepth) :
    Json.Legible depth (.arr (failures.map Failure.toJson)) :=
  Json.legible_map Failure.toJson depth (by omega)
    (fun f => ⟨by omega, legible_uint32 (depth + 2) f.attempt, trivial, trivial⟩) failures

end

namespace ResendResult

theorem slots_toJson (r : ResendResult) :
    r.toJson.slots ["job_id", "source_packet_id", "success", "sent_count", "failed_count",
      "packet_ids", "failures", "execution_time_ms"] =
    some [.given (.str r.job), .given (Json.ofNat r.source.toNat), .given (.bool r.success),
      .given (Json.ofNat r.sentCount.toNat), .given (Json.ofNat r.failedCount.toNat),
      .given (idsToJson r.packetIds), failuresSlot r.failures,
      .given (Json.ofNat r.executionTimeMs.toNat)] := by
  obtain ⟨job, source, success, sent, failed, ids, failures, time⟩ := r
  cases failures <;> rfl

theorem ofJson?_toJson (r : ResendResult) : ofJson? r.toJson = some r := by
  rw [ofJson?, slots_toJson]
  simp only [Option.bind_eq_bind, Option.bind_some, Json.Slot.required, Json.text?, Json.bool?,
    Json.uint32?_ofNat, Json.uint64?_ofNat, list?_idsToJson, withDefault_failuresSlot]

theorem not_progress (r : ResendResult) : Progress.ofJson? r.toJson = none := by
  have hslots : r.toJson.slots ["job_id", "source_packet_id", "state", "count", "sent_count",
      "failed_count", "packet_ids", "result"] =
      some [.given (.str r.job), .given (Json.ofNat r.source.toNat), .unnamed, .unnamed,
        .given (Json.ofNat r.sentCount.toNat), .given (Json.ofNat r.failedCount.toNat),
        .given (idsToJson r.packetIds), .unnamed] := by
    obtain ⟨job, source, success, sent, failed, ids, failures, time⟩ := r
    cases failures <;> rfl
  rw [Progress.ofJson?, hslots]
  simp [Json.Slot.required, Json.text?, Json.uint64?_ofNat]

theorem legible_toJson (r : ResendResult) (depth : Nat) (h : depth + 3 ≤ Json.maxDepth) :
    Json.Legible depth r.toJson := by
  have hsource := Json.legible_ofNat r.source.toNat r.source.toNat_lt (depth + 1)
  have hsent := legible_uint32 (depth + 1) r.sentCount
  have hfailed := legible_uint32 (depth + 1) r.failedCount
  have hids := legible_idsToJson (depth + 1) r.packetIds (by omega)
  have htime := Json.legible_ofNat r.executionTimeMs.toNat r.executionTimeMs.toNat_lt (depth + 1)
  refine ⟨by omega, ?_⟩
  simp only [Json.legibleMembers_append]
  refine ⟨⟨?_, ?_⟩, ?_⟩
  · exact ⟨trivial, hsource, trivial, hsent, hfailed, hids, trivial⟩
  · split
    · trivial
    · exact ⟨legible_failures (depth + 1) r.failures (by omega), trivial⟩
  · exact ⟨htime, trivial⟩

end ResendResult

namespace Progress

theorem slots_toJson (p : Progress) :
    p.toJson.slots ["job_id", "source_packet_id", "state", "count", "sent_count", "failed_count",
      "packet_ids", "result"] =
    some [.given (.str p.job), .given (Json.ofNat p.source.toNat), .given (.str p.state.name),
      .given (Json.ofNat p.count.toNat), .given (Json.ofNat p.sentCount.toNat),
      .given (Json.ofNat p.failedCount.toNat), .given (idsToJson p.packetIds),
      .ofOption ResendResult.toJson p.result] := by
  obtain ⟨job, source, state, count, sent, failed, ids, result⟩ := p
  cases result <;> rfl

theorem ofJson?_toJson (p : Progress) : ofJson? p.toJson = some p := by
  have hresult := Json.Slot.optionalOrAbsent_ofOption ResendResult.toJson ResendResult.ofJson?
    ResendResult.ofJson?_toJson (fun r => by simp [ResendResult.toJson]) p.result
  rw [ofJson?, slots_toJson]
  simp only [Option.bind_eq_bind, Option.bind_some, Json.Slot.required, Json.text?,
    JobState.ofJson?_name, Json.uint32?_ofNat, Json.uint64?_ofNat, list?_idsToJson, hresult]

/-- The `success` of an embedded result is a member of the result and not of the progress. -/
theorem not_result (p : Progress) : ResendResult.ofJson? p.toJson = none := by
  have hslots : p.toJson.slots ["job_id", "source_packet_id", "success", "sent_count",
      "failed_count", "packet_ids", "failures", "execution_time_ms"] =
      some [.given (.str p.job), .given (Json.ofNat p.source.toNat), .unnamed,
        .given (Json.ofNat p.sentCount.toNat), .given (Json.ofNat p.failedCount.toNat),
        .given (idsToJson p.packetIds), .unnamed, .unnamed] := by
    obtain ⟨job, source, state, count, sent, failed, ids, result⟩ := p
    cases result <;> rfl
  rw [ResendResult.ofJson?, hslots]
  simp [Json.Slot.required, Json.text?, Json.uint64?_ofNat]

theorem legible_toJson (p : Progress) (depth : Nat) (h : depth + 4 ≤ Json.maxDepth) :
    Json.Legible depth p.toJson := by
  have hsource := Json.legible_ofNat p.source.toNat p.source.toNat_lt (depth + 1)
  have hcount := legible_uint32 (depth + 1) p.count
  have hsent := legible_uint32 (depth + 1) p.sentCount
  have hfailed := legible_uint32 (depth + 1) p.failedCount
  have hids := legible_idsToJson (depth + 1) p.packetIds (by omega)
  refine ⟨by omega, ?_⟩
  rw [Json.legibleMembers_append]
  refine ⟨⟨trivial, hsource, trivial, hcount, hsent, hfailed, hids, trivial⟩, ?_⟩
  exact Json.legibleMembers_ifSome (depth + 1) "result" ResendResult.toJson
    (fun r => r.legible_toJson (depth + 1) (by omega)) p.result

end Progress

namespace Outcome

theorem legible_toJson (o : Outcome) (depth : Nat) (h : depth + 4 ≤ Json.maxDepth) :
    Json.Legible depth o.toJson := by
  cases o with
  | completed r => exact r.legible_toJson depth (by omega)
  | submitted p => exact p.legible_toJson depth h

theorem ofJson?_toJson (o : Outcome) : ofJson? o.toJson = some o := by
  have hreadable := ((Json.legible_iff _ 0).mp (o.legible_toJson 0 (by decide))).2.1
  rw [ofJson?, if_pos hreadable]
  cases o with
  | completed r => rw [toJson, ResendResult.ofJson?_toJson]
  | submitted p => rw [toJson, Progress.not_result, Progress.ofJson?_toJson, Option.map_some]

end Outcome

/-- **Job reports read back from their text.** Decoding the JSON text of a result, of a progress
with or without a result inside, or of an outcome gives the same value. A progress never reads as a
result and a result never reads as a progress, so an outcome is read as the kind it was written as
and about the job it was written about. -/
theorem reports_round_trip :
    Json.RoundTrips ResendResult.toJson ResendResult.ofJson? ∧
    Json.RoundTrips Progress.toJson Progress.ofJson? ∧
    Json.RoundTrips Outcome.toJson Outcome.ofJson? ∧
    (∀ p : Progress,
      (Json.parseText (Outcome.submitted p).toJson.compact >>= ResendResult.ofJson?) = none ∧
      ∀ r, (Json.parseText (Outcome.submitted p).toJson.compact >>= Outcome.ofJson?) ≠
        some (.completed r)) ∧
    (∀ r : ResendResult,
      (Json.parseText (Outcome.completed r).toJson.compact >>= Progress.ofJson?) = none ∧
      ∀ p, (Json.parseText (Outcome.completed r).toJson.compact >>= Outcome.ofJson?) ≠
        some (.submitted p)) ∧
    ∀ o : Outcome,
      (Json.parseText o.toJson.compact >>= Outcome.ofJson?).map Outcome.job = some o.job := by
  have hparse (o : Outcome) : Json.parseText o.toJson.compact = some o.toJson :=
    Json.parseText_compact _ (o.legible_toJson 0 (by decide))
  have hreads (o : Outcome) : (Json.parseText o.toJson.compact >>= Outcome.ofJson?) = some o := by
    rw [hparse, Option.bind_eq_bind, Option.bind_some, o.ofJson?_toJson]
  refine ⟨?_, ?_, ?_, ?_, ?_, ?_⟩
  · exact .of_legible _ _ (fun r => r.legible_toJson 0 (by decide)) ResendResult.ofJson?_toJson
  · exact .of_legible _ _ (fun p => p.legible_toJson 0 (by decide)) Progress.ofJson?_toJson
  · exact .of_legible _ _ (fun o => o.legible_toJson 0 (by decide)) Outcome.ofJson?_toJson
  · intro p
    rw [hreads, hparse]
    exact ⟨p.not_result, fun r => by simp⟩
  · intro r
    rw [hreads, hparse]
    exact ⟨r.not_progress, fun p => by simp⟩
  · intro o
    rw [hreads, Option.map_some]

end PacketReplay
