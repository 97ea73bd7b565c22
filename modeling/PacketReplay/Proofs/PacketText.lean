import PacketReplay.History.Codec
import PacketReplay.Proofs.BodyText
import PacketReplay.Proofs.StoredRow
import PacketReplay.Proofs.TimestampText

set_option autoImplicit false

namespace PacketReplay

theorem Method.ofJson?_toJson (m : Method) : Method.ofJson? m.toJson = some m := by
  cases m <;> rfl

theorem Instant.ofJson?_toJson (t : Instant) : Instant.ofJson? t.toJson = some t := by
  rw [Instant.ofJson?, Instant.toJson, Json.text?, Option.bind_eq_bind, Option.bind_some,
    Rfc3339.read?_write]

namespace Json

theorem nullable_of_ne {α : Type} (decode : Json → Option α) (v : Json) (h : v ≠ .null) :
    Slot.nullable decode v = (decode v).map some := by
  cases v <;> first | rfl | exact absurd rfl h

def Slot.ofOption {α : Type} (encode : α → Json) : Option α → Slot
  | some a => .given (encode a)
  | none => .unnamed

theorem Slot.optionalOrAbsent_ofOption {α : Type} (encode : α → Json) (decode : Json → Option α)
    (h : ∀ a, decode (encode a) = some a) (hne : ∀ a, encode a ≠ .null) (o : Option α) :
    (Slot.ofOption encode o).optionalOrAbsent decode = some o := by
  cases o with
  | none => rfl
  | some a =>
    change Slot.nullable decode (encode a) = some (some a)
    rw [nullable_of_ne decode _ (hne a), h, Option.map_some]

end Json

theorem optional_status (s : Option UInt16) :
    (Json.Slot.given (statusToJson s)).optional Json.uint16? = some s := by
  cases s with
  | none => rfl
  | some n =>
    change Json.Slot.nullable Json.uint16? (Json.ofNat n.toNat) = some (some n)
    rw [Json.nullable_of_ne _ _ (by simp [Json.ofNat]), Json.uint16?_ofNat, Option.map_some]

theorem bodyToJson_ne_null (b : Bytes) : bodyToJson b ≠ .null := by
  unfold bodyToJson
  split <;> simp

theorem Record.slots_toJson (r : Record) : r.toJson.slots Record.fieldNames =
    some [.given (Json.ofNat r.id.toNat), .given r.method.toJson, .given (.str r.url),
      .given (statusToJson r.status), .given (Headers.toJson r.headers),
      .ofOption bodyToJson r.body, .given (Headers.toJson r.responseHeaders),
      .ofOption bodyToJson r.responseBody, .given r.timestamp.toJson, .given r.origin.toJson] := by
  obtain ⟨⟨method, url, status, headers, body, responseHeaders, responseBody, timestamp, origin⟩,
    id⟩ := r
  cases body <;> cases responseBody <;> rfl

theorem Record.ofJson?_toJson (r : Record) : Record.ofJson? r.toJson = some r := by
  have hbody (o : Option Bytes) := Json.Slot.optionalOrAbsent_ofOption bodyToJson bodyOfJson?
    bodyOfJson?_bodyToJson bodyToJson_ne_null o
  rw [Record.ofJson?, Record.slots_toJson]
  simp only [Option.bind_eq_bind, Option.bind_some, Json.Slot.required, Json.Slot.withDefault,
    hbody, optional_status, Json.uint64?_ofNat, Method.ofJson?_toJson, Json.text?,
    Headers.ofJson?_toJson, Instant.ofJson?_toJson, Origin.ofJson?_toJson]

theorem Summary.slots_toJson (s : Summary) : s.toJson.slots
    ["id", "method", "url", "status", "body_length", "timestamp", "origin"] =
    some [.given (Json.ofNat s.id.toNat), .given s.method.toJson, .given (.str s.url),
      .given (statusToJson s.status), .given (Json.ofNat s.bodyLength.toNat),
      .given s.timestamp.toJson, .given s.origin.toJson] := rfl

theorem Summary.ofJson?_toJson (s : Summary) : Summary.ofJson? s.toJson = some s := by
  rw [Summary.ofJson?, Summary.slots_toJson]
  simp only [Option.bind_eq_bind, Option.bind_some, Json.Slot.required, optional_status,
    Json.uint64?_ofNat, Method.ofJson?_toJson, Json.text?, Instant.ofJson?_toJson,
    Origin.ofJson?_toJson]

theorem Listing.slots_toJson (l : Listing) : l.toJson.slots
    ["packets", "total_count", "has_more", "limit", "offset"] =
    some [.given (.arr (l.packets.map Summary.toJson)), .given (Json.ofNat l.totalCount.toNat),
      .given (.bool l.hasMore), .given (Json.ofNat l.limit.toNat),
      .given (Json.ofNat l.offset.toNat)] := rfl

theorem Listing.ofJson?_toJson (l : Listing) : Listing.ofJson? l.toJson = some l := by
  have hpackets := Json.list?_map Summary.toJson Summary.ofJson? Summary.ofJson?_toJson l.packets
  rw [Listing.ofJson?, Listing.slots_toJson]
  simp only [Option.bind_eq_bind, Option.bind_some, Json.Slot.required, Json.bool?,
    Json.uint64?_ofNat, hpackets]

section

variable (depth : Nat)

theorem legible_status (s : Option UInt16) : Json.Legible depth (statusToJson s) := by
  cases s with
  | none => trivial
  | some n => exact Json.legible_ofNat n.toNat (n.toNat_lt.trans (by decide)) depth

theorem legible_body (b : Bytes) (h : depth + 1 ≤ Json.maxDepth) :
    Json.Legible depth (bodyToJson b) := by
  unfold bodyToJson
  split <;> exact ⟨by omega, trivial, trivial, trivial⟩

theorem Json.legibleMembers_ifSome {α : Type} (name : String) (encode : α → Json)
    (h : ∀ a, Json.Legible depth (encode a)) (o : Option α) :
    Json.LegibleMembers depth (Json.memberIfSome name encode o) := by
  cases o with
  | none => trivial
  | some a => exact ⟨h a, trivial⟩

end

theorem Record.legible_toJson (r : Record) : Json.Legible 0 r.toJson := by
  have hheaders (hs : Headers) := hs.legible_toJson 1 (by decide)
  have hbody (name : String) (o : Option Bytes) :=
    Json.legibleMembers_ifSome 1 name bodyToJson (fun b => legible_body 1 b (by decide)) o
  have hid := Json.legible_ofNat r.id.toNat r.id.toNat_lt 1
  refine ⟨by decide, ?_⟩
  simp only [Json.legibleMembers_append, hbody, and_true]
  refine ⟨⟨?_, ?_⟩, ?_⟩
  · exact ⟨hid, trivial, trivial, legible_status 1 r.status, hheaders r.headers, trivial⟩
  · exact ⟨hheaders r.responseHeaders, trivial⟩
  · exact ⟨trivial, r.origin.legible_toJson 1 (by decide), trivial⟩

theorem Summary.legible_toJson (s : Summary) (depth : Nat) (h : depth + 2 ≤ Json.maxDepth) :
    Json.Legible depth s.toJson := by
  have hid := Json.legible_ofNat s.id.toNat s.id.toNat_lt (depth + 1)
  have hlength := Json.legible_ofNat s.bodyLength.toNat s.bodyLength.toNat_lt (depth + 1)
  have horigin := s.origin.legible_toJson (depth + 1) (by omega)
  exact ⟨by omega, hid, trivial, trivial, legible_status _ s.status, hlength, trivial, horigin,
    trivial⟩

theorem Listing.legible_toJson (l : Listing) : Json.Legible 0 l.toJson := by
  have hpackets := Json.legible_map Summary.toJson 1 (by decide)
    (fun s => s.legible_toJson 2 (by decide)) l.packets
  have htotal := Json.legible_ofNat l.totalCount.toNat l.totalCount.toNat_lt 1
  have hlimit := Json.legible_ofNat l.limit.toNat l.limit.toNat_lt 1
  have hoffset := Json.legible_ofNat l.offset.toNat l.offset.toNat_lt 1
  exact ⟨by decide, hpackets, htotal, trivial, hlimit, hoffset, trivial⟩

/-- Every value is read from the text it is written as, so what is read from any text is read again
from the text it is then written as. -/
structure Json.RoundTrips {α : Type} (encode : α → Json) (decode : Json → Option α) : Prop where
  reads : ∀ a, (parseText (encode a).compact >>= decode) = some a
  rereads : ∀ text a, (parseText text >>= decode) = some a →
    (parseText (encode a).compact >>= decode) = parseText text >>= decode

theorem Json.RoundTrips.of_legible {α : Type} (encode : α → Json) (decode : Json → Option α)
    (hlegible : ∀ a, Legible 0 (encode a)) (h : ∀ a, decode (encode a) = some a) :
    RoundTrips encode decode := by
  have hreads (a : α) : (parseText (encode a).compact >>= decode) = some a := by
    rw [parseText_compact _ (hlegible a), Option.bind_eq_bind, Option.bind_some, h]
  refine ⟨hreads, ?_⟩
  intro text a htext
  rw [htext, hreads]

/-- **Packets read back from their text.** Decoding the JSON text of a record gives the record, for
any id, method, header, status, body, time and origin, and the same holds of summaries and of pages;
a text that decodes, encoded again, decodes to the same. -/
theorem packets_round_trip : Json.RoundTrips Record.toJson Record.ofJson? ∧
    Json.RoundTrips Summary.toJson Summary.ofJson? ∧
    Json.RoundTrips Listing.toJson Listing.ofJson? := by
  refine ⟨?_, ?_, ?_⟩
  · exact .of_legible _ _ Record.legible_toJson Record.ofJson?_toJson
  · exact .of_legible _ _ (fun s => s.legible_toJson 0 (by decide)) Summary.ofJson?_toJson
  · exact .of_legible _ _ Listing.legible_toJson Listing.ofJson?_toJson

end PacketReplay
