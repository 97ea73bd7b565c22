import PacketReplay.Proofs.JsonText
import PacketReplay.Store.Row

set_option autoImplicit false

namespace PacketReplay

/-- A draft whose time is a whole number of milliseconds. -/
def Draft.Whole (d : Draft) : Prop :=
  Instant.ofMillis? d.timestamp.toMillis = some d.timestamp

/-- A draft whose time, cut to milliseconds, is a time. -/
def Draft.Timely (d : Draft) : Prop :=
  (Instant.ofMillis? d.timestamp.toMillis).isSome

instance (d : Draft) : Decidable d.Whole := by
  unfold Draft.Whole; infer_instance

instance (d : Draft) : Decidable d.Timely := by
  unfold Draft.Timely; infer_instance

def Record.row (r : Record) : Row :=
  Row.ofDraft r.id.toNat r.toDraft

theorem Instant.ofParts?_eq_some (s : Int) (n : Nat) (t : Instant)
    (h : Instant.ofParts? s n = some t) : t.seconds = s ∧ t.nanos = n := by
  unfold Instant.ofParts? at h
  split at h
  · cases h
    exact ⟨rfl, rfl⟩
  · cases h

theorem Instant.toMillis_of_ofMillis? (ms : Int) (t : Instant) (h : Instant.ofMillis? ms = some t) :
    t.toMillis = ms := by
  obtain ⟨hs, hn⟩ := Instant.ofParts?_eq_some _ _ t h
  have hm : (ms % 1000).toNat * 1000000 / 1000000 = (ms % 1000).toNat :=
    Nat.mul_div_cancel _ (by decide)
  rw [Instant.toMillis, hs, hn, hm]
  omega

theorem Draft.Timely.cut_whole {d : Draft} (h : d.Timely) : d.cut.Whole := by
  obtain ⟨t, ht⟩ := Option.isSome_iff_exists.mp h
  have hc : d.cut.timestamp = t := by
    change (Instant.ofMillis? d.timestamp.toMillis).getD d.timestamp = t
    rw [ht]
    rfl
  rw [Draft.Whole, hc, Instant.toMillis_of_ofMillis? _ t ht]
  exact ht

theorem Draft.cut_cut (d : Draft) : d.cut.cut = d.cut := by
  have htime : d.timestamp.truncateToMillis.truncateToMillis = d.timestamp.truncateToMillis := by
    cases h : Instant.ofMillis? d.timestamp.toMillis with
    | none =>
      have ht : d.timestamp.truncateToMillis = d.timestamp := by
        rw [Instant.truncateToMillis, h, Option.getD_none]
      rw [ht, ht]
    | some t =>
      have ht : d.timestamp.truncateToMillis = t := by
        rw [Instant.truncateToMillis, h, Option.getD_some]
      rw [ht, Instant.truncateToMillis, Instant.toMillis_of_ofMillis? _ t h, h, Option.getD_some]
  rw [Draft.cut, Draft.cut, htime]

namespace Json

theorem intIn?_ofNat (low high : Int) (n : Nat) (hl : low ≤ n) (hh : (n : Int) ≤ high) :
    intIn? low high (ofNat n) = some (n : Int) := by
  simp [intIn?, ofNat, hl, hh]

theorem natBelow?_ofNat (bits n : Nat) (h : n < Nat.pow 2 bits) :
    natBelow? bits (ofNat n) = some n := by
  have hi := intIn?_ofNat 0 (Nat.pow 2 bits - 1) n (by omega) (by omega)
  rw [natBelow?, hi]
  rfl

theorem uint16?_ofNat (x : UInt16) : uint16? (ofNat x.toNat) = some x := by
  have h := natBelow?_ofNat 16 x.toNat x.toNat_lt
  simp [uint16?, h]

theorem uint64?_ofNat (x : UInt64) : uint64? (ofNat x.toNat) = some x := by
  have h := natBelow?_ofNat 64 x.toNat x.toNat_lt
  simp [uint64?, h]

theorem uint32?_ofNat (x : UInt32) : uint32? (ofNat x.toNat) = some x := by
  have h := natBelow?_ofNat 32 x.toNat x.toNat_lt
  simp [uint32?, h]

theorem legible_ofNat (n : Nat) (h : n < 2 ^ 64) (depth : Nat) : Legible depth (ofNat n) :=
  ⟨by omega, by omega⟩

theorem list?_map {α : Type} (encode : α → Json) (decode : Json → Option α)
    (h : ∀ a, decode (encode a) = some a) (as : List α) :
    list? decode (.arr (as.map encode)) = some as := by
  change (as.map encode).mapM decode = some as
  induction as with
  | nil => rfl
  | cons a as ih => simp [h, ih]

theorem legible_map {α : Type} (encode : α → Json) (depth : Nat) (hdepth : depth < maxDepth)
    (h : ∀ a, Legible (depth + 1) (encode a)) (as : List α) :
    Legible depth (.arr (as.map encode)) := by
  refine ⟨hdepth, (legibleItems_iff _ _).mpr fun v hv => ?_⟩
  obtain ⟨a, -, rfl⟩ := List.mem_map.mp hv
  exact h a

end Json

theorem Header.ofJson?_toJson (h : Header) : Header.ofJson? h.toJson = some h := rfl

theorem Headers.ofJson?_toJson (hs : Headers) : Headers.ofJson? (Headers.toJson hs) = some hs :=
  Json.list?_map Header.toJson Header.ofJson? Header.ofJson?_toJson hs

theorem Headers.legible_toJson (hs : Headers) (depth : Nat) (h : depth + 2 ≤ Json.maxDepth) :
    Json.Legible depth (Headers.toJson hs) :=
  Json.legible_map Header.toJson depth (by omega)
    (fun _ => ⟨by omega, trivial, trivial, trivial⟩) hs

theorem Origin.ofJson?_toJson (o : Origin) : Origin.ofJson? o.toJson = some o := by
  cases o with
  | captured => rfl
  | resend source job attempt =>
    have hs : Json.uint64? (.int source.toNat) = some source := Json.uint64?_ofNat source
    have ha : Json.uint32? (.int attempt.toNat) = some attempt := Json.uint32?_ofNat attempt
    simp [toJson, ofJson?, Json.readable, Json.readableMembers, Json.occurrences, ofKind?,
      Json.text?, resendOfJson?, Json.slots, Json.memberSlot, Json.Slot.required, Json.ofNat, hs, ha]

theorem Origin.legible_toJson (o : Origin) (depth : Nat) (h : depth + 1 ≤ Json.maxDepth) :
    Json.Legible depth o.toJson := by
  cases o with
  | captured => exact ⟨by omega, trivial, trivial⟩
  | resend source job attempt =>
    have hsource := Json.legible_ofNat source.toNat source.toNat_lt (depth + 1)
    have hattempt :=
      Json.legible_ofNat attempt.toNat (attempt.toNat_lt.trans (by decide)) (depth + 1)
    exact ⟨by omega, trivial, hsource, trivial, hattempt, trivial⟩

theorem Row.readJson_compact {α : Type} (c : Column) (decode : Json → Option α) (v : Json) (a : α)
    (hv : Json.Legible 0 v) (ha : decode v = some a) :
    Row.readJson c decode v.compact = .ok a := by
  simp [Row.readJson, Json.parseText_compact v hv, ha]

theorem Row.readJson_headers (c : Column) (hs : Headers) :
    Row.readJson c Headers.ofJson? (Headers.toJson hs).compact = .ok hs :=
  Row.readJson_compact c _ _ hs (Headers.legible_toJson hs 0 (by decide))
    (Headers.ofJson?_toJson hs)

theorem Row.readJson_origin (c : Column) (o : Origin) :
    Row.readJson c Origin.ofJson? o.toJson.compact = .ok o :=
  Row.readJson_compact c _ _ o (Origin.legible_toJson o 0 (by decide)) (Origin.ofJson?_toJson o)

theorem Method.normalName_name (m : Method) : Method.normalName m.name = m.name := by
  apply String.toList_injective
  change ((trim m.name).map Char.toUpper).toList = _
  rw [String.toList_map, trim, String.toList_ofList]
  cases m <;> rfl

theorem Method.parse_name (m : Method) : Method.parse m.name = .ok m := by
  rw [Method.parse, Method.normalName_name]
  cases m <;> rfl

theorem Row.readMethod_name (m : Method) : Row.readMethod m.name = .ok m := by
  simp [Row.readMethod, Method.parse_name]

theorem Row.statusBits_toNat (s : UInt16) : Row.statusBits s.toNat = s := by
  have h := s.toNat_lt
  have hm : ((s.toNat : Int) % 0x10000).toNat = s.toNat := by omega
  simp [Row.statusBits, hm]

theorem Row.map_statusBits (s : Option UInt16) :
    (s.map fun s => (s.toNat : Int)).map Row.statusBits = s := by
  cases s with
  | none => rfl
  | some s => simp [Row.statusBits_toNat]

theorem Record.packetId_row (r : Record) : r.row.packetId = r.id := by
  have h := r.id.toNat_lt
  have hm : ((r.id.toNat : Int) % 0x10000000000000000).toNat = r.id.toNat := by omega
  change UInt64.ofNat ((r.id.toNat : Int) % 0x10000000000000000).toNat = _
  rw [hm, UInt64.ofNat_toNat]

section

variable (r : Record)

theorem Record.read_capturedAt : r.row.read .capturedAt Cell.int? = .ok r.timestamp.toMillis := rfl

theorem Record.read_method : r.row.read .method Cell.text? = .ok r.method.name := rfl

theorem Record.read_url : r.row.read .url Cell.text? = .ok r.url := rfl

theorem Record.read_status : r.row.read .status Cell.nullableInt? =
    .ok (r.status.map fun s => (s.toNat : Int)) := by
  obtain ⟨⟨method, url, status, headers⟩, id⟩ := r
  cases status <;> rfl

theorem Record.read_headers : r.row.read .headers Cell.text? =
    .ok (Headers.toJson r.headers).compact := rfl

theorem Record.read_bodyLength : r.row.read .bodyLength Cell.int? =
    .ok (bodyLength r.body : Int) := rfl

theorem Record.read_responseHeaders : r.row.read .responseHeaders Cell.text? =
    .ok (Headers.toJson r.responseHeaders).compact := rfl

theorem Record.read_origin : r.row.read .origin Cell.text? = .ok r.origin.toJson.compact := rfl

theorem Record.readBody_body (includeBody : Bool) : r.row.readBody includeBody .body =
    .ok (if includeBody then r.body else none) := by
  cases includeBody with
  | false => rfl
  | true =>
    obtain ⟨⟨method, url, status, headers, body⟩, id⟩ := r
    cases body <;> rfl

theorem Record.readBody_responseBody (includeBody : Bool) :
    r.row.readBody includeBody .responseBody =
      .ok (if includeBody then r.responseBody else none) := by
  cases includeBody with
  | false => rfl
  | true =>
    obtain ⟨⟨method, url, status, headers, body, responseHeaders, responseBody⟩, id⟩ := r
    cases responseBody <;> rfl

end

theorem Row.readTime_toMillis {d : Draft} (h : d.Whole) :
    Row.readTime d.timestamp.toMillis = .ok d.timestamp := by
  rw [Row.readTime, h]

/-- The row of a record is decoded to the record, if its time can be read. -/
theorem Record.record_row_eq (r : Record) (includeBody : Bool) : r.row.record includeBody =
    (Row.readTime r.timestamp.toMillis).map fun t => { r.seen includeBody with timestamp := t } := by
  simp only [Row.record, Record.read_capturedAt, Record.read_method, Record.read_url,
    Record.read_status, Record.read_headers, Record.read_responseHeaders, Record.read_origin,
    Record.readBody_body, Record.readBody_responseBody, Row.readMethod_name, Row.readJson_headers,
    Row.readJson_origin, Row.map_statusBits, Record.packetId_row, bind, Except.bind, pure,
    Except.pure]
  cases Row.readTime r.timestamp.toMillis <;> cases includeBody <;> rfl

theorem Record.record_row (r : Record) (h : r.toDraft.Whole) (includeBody : Bool) :
    r.row.record includeBody = .ok (r.seen includeBody) := by
  rw [r.record_row_eq, Row.readTime_toMillis h]
  cases includeBody <;> rfl

theorem Record.summary_row_eq (r : Record) : r.row.summary =
    (Row.readTime r.timestamp.toMillis).map fun t => { r.summary with timestamp := t } := by
  simp only [Row.summary, Record.read_capturedAt, Record.read_method, Record.read_url,
    Record.read_status, Record.read_bodyLength, Record.read_origin, Row.readMethod_name,
    Row.readJson_origin, Row.map_statusBits, Record.packetId_row, bind, Except.bind, pure,
    Except.pure]
  cases Row.readTime r.timestamp.toMillis <;> rfl

theorem Record.summary_row (r : Record) (h : r.toDraft.Whole) :
    r.row.summary = .ok r.summary := by
  rw [r.summary_row_eq, Row.readTime_toMillis h]
  rfl

theorem Draft.whole_of_readTime (d : Draft) (hcut : d.cut = d) (t : Instant)
    (h : Row.readTime d.timestamp.toMillis = .ok t) : d.Whole := by
  have htime : (Instant.ofMillis? d.timestamp.toMillis).getD d.timestamp = d.timestamp :=
    congrArg Draft.timestamp hcut
  rw [Draft.Whole]
  cases ho : Instant.ofMillis? d.timestamp.toMillis with
  | none =>
    rw [Row.readTime, ho] at h
    cases h
  | some t =>
    rw [ho] at htime
    exact congrArg some htime

/-- The rows that can be listed are those of records with times in whole milliseconds. -/
theorem Record.of_summary_row (r : Record) (hcut : r.toDraft.cut = r.toDraft) (s : Summary)
    (h : r.row.summary = .ok s) : r.toDraft.Whole ∧ s = r.summary := by
  have hwhole : r.toDraft.Whole := by
    rw [r.summary_row_eq] at h
    cases ht : Row.readTime r.timestamp.toMillis with
    | error e =>
      rw [ht] at h
      cases h
    | ok t => exact r.toDraft.whole_of_readTime hcut t ht
  rw [r.summary_row hwhole] at h
  exact ⟨hwhole, (Except.ok.inj h).symm⟩

theorem Record.of_record_row (r : Record) (hcut : r.toDraft.cut = r.toDraft) (q : Record)
    (h : r.row.record true = .ok q) : r.toDraft.Whole ∧ q = r := by
  have hwhole : r.toDraft.Whole := by
    rw [r.record_row_eq] at h
    cases ht : Row.readTime r.timestamp.toMillis with
    | error e =>
      rw [ht] at h
      cases h
    | ok t => exact r.toDraft.whole_of_readTime hcut t ht
  rw [r.record_row hwhole] at h
  exact ⟨hwhole, (Except.ok.inj h).symm⟩

end PacketReplay
