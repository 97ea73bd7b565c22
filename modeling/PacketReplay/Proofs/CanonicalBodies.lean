import PacketReplay.Proofs.PacketText
import PacketReplay.Proofs.Utf8Bytes

set_option autoImplicit false

namespace PacketReplay

namespace Base64

theorem value?_eq_some (c : Char) (n : Nat) (h : value? c = some n) : n < 64 ∧ digit n = c := by
  have hofNat (k : Nat) (hk : k = c.toNat) : Char.ofNat k = c := by rw [hk, Char.ofNat_toNat]
  unfold value? at h
  simp only [Char.le_def, UInt32.le_iff_toNat_le] at h
  split_ifs at h with hupper hlower hdigit hplus hslash
  · cases h
    obtain ⟨hlow, hhigh⟩ : 65 ≤ c.toNat ∧ c.toNat ≤ 90 := hupper
    refine ⟨by omega, ?_⟩
    rw [digit, if_pos (by omega), hofNat _ (by omega)]
  · cases h
    obtain ⟨hlow, hhigh⟩ : 97 ≤ c.toNat ∧ c.toNat ≤ 122 := hlower
    refine ⟨by omega, ?_⟩
    rw [digit, if_neg (by omega), if_pos (by omega), hofNat _ (by omega)]
  · cases h
    obtain ⟨hlow, hhigh⟩ : 48 ≤ c.toNat ∧ c.toNat ≤ 57 := hdigit
    refine ⟨by omega, ?_⟩
    rw [digit, if_neg (by omega), if_neg (by omega), if_pos (by omega), hofNat _ (by omega)]
  · cases h
    exact ⟨by decide, hplus.symm⟩
  · cases h
    exact ⟨by decide, hslash.symm⟩

theorem toNat_toUInt8 (n : Nat) (h : n < 256) : n.toUInt8.toNat = n :=
  UInt8.toNat_ofNat_of_lt h

/-! The parts that the characters of a group stand for are put together to bytes that `encodeChars`
cuts into the same parts; of a padded group only if the bits left over are zero. -/

section

variable (x y z w : Nat) (hx : x < 64) (hy : y < 64) (hz : z < 64) (hw : w < 64)

include hx hy

theorem encodeChars_one (hzero : y % 16 = 0) :
    encodeChars [(x * 4 + y / 16).toUInt8] = [digit x, digit y, '=', '='] := by
  have ha := toNat_toUInt8 (x * 4 + y / 16) (by omega)
  have hfirst : (x * 4 + y / 16) / 4 = x := by omega
  have hsecond : (x * 4 + y / 16) % 4 * 16 = y := by omega
  rw [encodeChars, ha, hfirst, hsecond]

include hz

theorem encodeChars_two (hzero : z % 4 = 0) :
    encodeChars [(x * 4 + y / 16).toUInt8, (y % 16 * 16 + z / 4).toUInt8] =
      [digit x, digit y, digit z, '='] := by
  have ha := toNat_toUInt8 (x * 4 + y / 16) (by omega)
  have hb := toNat_toUInt8 (y % 16 * 16 + z / 4) (by omega)
  have hfirst : (x * 4 + y / 16) / 4 = x := by omega
  have hsecond : (x * 4 + y / 16) % 4 * 16 + (y % 16 * 16 + z / 4) / 16 = y := by omega
  have hthird : (y % 16 * 16 + z / 4) % 16 * 4 = z := by omega
  rw [encodeChars, ha, hb, hfirst, hsecond, hthird]

include hw

theorem encodeChars_three (tail : Bytes) :
    encodeChars ((x * 4 + y / 16).toUInt8 :: (y % 16 * 16 + z / 4).toUInt8 ::
      (z % 4 * 64 + w).toUInt8 :: tail) =
      digit x :: digit y :: digit z :: digit w :: encodeChars tail := by
  have ha := toNat_toUInt8 (x * 4 + y / 16) (by omega)
  have hb := toNat_toUInt8 (y % 16 * 16 + z / 4) (by omega)
  have hc := toNat_toUInt8 (z % 4 * 64 + w) (by omega)
  have hfirst : (x * 4 + y / 16) / 4 = x := by omega
  have hsecond : (x * 4 + y / 16) % 4 * 16 + (y % 16 * 16 + z / 4) / 16 = y := by omega
  have hthird : (y % 16 * 16 + z / 4) % 16 * 4 + (z % 4 * 64 + w) / 64 = z := by omega
  have hfourth : (z % 4 * 64 + w) % 64 = w := by omega
  rw [encodeChars, ha, hb, hc, hfirst, hsecond, hthird, hfourth]

end

theorem eq_encodeChars (cs : List Char) (b : Bytes) (h : decodeChars cs = some b) :
    cs = encodeChars b := by
  fun_induction decodeChars cs generalizing b with
  | case1 =>
    cases h
    rfl
  | case2 p q =>
    obtain ⟨x, hp, h₁⟩ := Option.bind_eq_some_iff.mp h
    obtain ⟨y, hq, h₂⟩ := Option.bind_eq_some_iff.mp h₁
    obtain ⟨hx, hpx⟩ := value?_eq_some p x hp
    obtain ⟨hy, hqy⟩ := value?_eq_some q y hq
    split at h₂
    · rename_i hzero
      cases h₂
      rw [encodeChars_one x y hx hy hzero, hpx, hqy]
    · cases h₂
  | case3 p q r =>
    obtain ⟨x, hp, h₁⟩ := Option.bind_eq_some_iff.mp h
    obtain ⟨y, hq, h₂⟩ := Option.bind_eq_some_iff.mp h₁
    obtain ⟨z, hr, h₃⟩ := Option.bind_eq_some_iff.mp h₂
    obtain ⟨hx, hpx⟩ := value?_eq_some p x hp
    obtain ⟨hy, hqy⟩ := value?_eq_some q y hq
    obtain ⟨hz, hrz⟩ := value?_eq_some r z hr
    split at h₃
    · rename_i hzero
      cases h₃
      rw [encodeChars_two x y z hx hy hz hzero, hpx, hqy, hrz]
    · cases h₃
  | case4 p q r s rest _ _ ih =>
    obtain ⟨x, hp, h₁⟩ := Option.bind_eq_some_iff.mp h
    obtain ⟨y, hq, h₂⟩ := Option.bind_eq_some_iff.mp h₁
    obtain ⟨z, hr, h₃⟩ := Option.bind_eq_some_iff.mp h₂
    obtain ⟨w, hs, h₄⟩ := Option.bind_eq_some_iff.mp h₃
    obtain ⟨tail, htail, h₅⟩ := Option.bind_eq_some_iff.mp h₄
    obtain ⟨hx, hpx⟩ := value?_eq_some p x hp
    obtain ⟨hy, hqy⟩ := value?_eq_some q y hq
    obtain ⟨hz, hrz⟩ := value?_eq_some r z hr
    obtain ⟨hw, hsw⟩ := value?_eq_some s w hs
    cases h₅
    rw [encodeChars_three x y z w hx hy hz hw, hpx, hqy, hrz, hsw, ih tail htail]
  | case5 => cases h

theorem decode?_eq_some_iff (text : String) (b : Bytes) :
    decode? text = some b ↔ text = encode b := by
  constructor
  · intro h
    rw [encode, ← eq_encodeChars text.toList b h, String.ofList_toList]
  · rintro rfl
    exact decode?_encode b

end Base64

inductive BodyForm where
  | utf8 (text : String)
  | base64 (text : String)
deriving DecidableEq

namespace BodyForm

def toJson : BodyForm → Json
  | utf8 text => .obj [("encoding", .str "utf8"), ("data", .str text)]
  | base64 text => .obj [("encoding", .str "base64"), ("data", .str text)]

def ofParts? (encoding data : String) : Option BodyForm :=
  if encoding = "utf8" then some (utf8 data)
  else if encoding = "base64" then some (base64 data)
  else none

/-- The form that a JSON value writes, whatever else the value holds. -/
def ofJson? (v : Json) : Option BodyForm := do
  let some [encoding, data] := v.slots ["encoding", "data"] | none
  ofParts? (← encoding.required Json.constantName?) (← data.required Json.text?)

def bytes? : BodyForm → Option Bytes
  | utf8 text => some (textBytes text)
  | base64 text => Base64.decode? text

theorem ofParts?_bytes? (encoding data : String) :
    ofParts? encoding data >>= bytes? = decodeBody? encoding data := by
  unfold ofParts?
  split_ifs with htext hbase64
  · rw [htext]
    rfl
  · rw [hbase64]
    rfl
  · unfold decodeBody?
    split <;> simp_all

theorem bodyOfJson?_eq (v : Json) : bodyOfJson? v = ofJson? v >>= bytes? := by
  unfold bodyOfJson? ofJson?
  rcases v.slots ["encoding", "data"] with _ | _ | ⟨encoding, _ | ⟨data, _ | _⟩⟩
  case some.cons.cons.nil =>
    dsimp only
    cases encoding.required Json.constantName? with
    | none => rfl
    | some name =>
      cases data.required Json.text? with
      | none => rfl
      | some text => exact (ofParts?_bytes? name text).symm
  all_goals rfl

def ofBytes (b : Bytes) : BodyForm :=
  match bytesText? b with
  | some text => utf8 text
  | none => base64 (Base64.encode b)

theorem toJson_ofBytes (b : Bytes) : (ofBytes b).toJson = bodyToJson b := by
  unfold ofBytes bodyToJson
  cases bytesText? b <;> rfl

theorem ofBytes_text (s : String) : ofBytes (textBytes s) = utf8 s := by
  rw [ofBytes, bytesText?_textBytes]

theorem ofBytes_of_not_wellFormed (b : Bytes) (h : ¬ Utf8.WellFormed b) :
    ofBytes b = base64 (Base64.encode b) := by
  unfold ofBytes
  split
  · rename_i text htext
    rw [← textBytes_of_bytesText? b text htext] at h
    exact absurd (Utf8.wellFormed_textBytes text) h
  · rfl

/-- What is read from a form is written in the same form, or as text in the place of base64. -/
theorem ofBytes_cases (form : BodyForm) (b : Bytes) (h : form.bytes? = some b) :
    ofBytes b = form ∨ ∃ data text, form = base64 data ∧ textBytes text = b ∧
      ofBytes b = utf8 text := by
  cases form with
  | utf8 text =>
    cases h
    exact .inl (ofBytes_text text)
  | base64 data =>
    by_cases hb : Utf8.WellFormed b
    · obtain ⟨text, rfl⟩ := hb.exists_text
      exact .inr ⟨data, text, rfl, rfl, ofBytes_text text⟩
    · rw [ofBytes_of_not_wellFormed b hb, (Base64.decode?_eq_some_iff data b).mp h]
      exact .inl rfl

end BodyForm

def rewriteBody? (v : Json) : Option Json :=
  (bodyOfJson? v).map bodyToJson

/-- **Bodies have one form.** Any bytes are read from what they are written as, also through its
text. They are written as text exactly if they are UTF-8, and in base64 otherwise. A base64 text is
read as some bytes only if it is what they are encoded as, so no two texts are read alike. A body
that was read is written in the form that it was read from, or as text if that was base64 of UTF-8,
and writing it yet again changes nothing. -/
theorem bodies_have_one_form :
    (∀ b, bodyOfJson? (bodyToJson b) = some b) ∧ Json.RoundTrips bodyToJson bodyOfJson? ∧
    (∀ b, (∃ text, bodyToJson b = (BodyForm.utf8 text).toJson) ↔ Utf8.WellFormed b) ∧
    (∀ b, ¬ Utf8.WellFormed b → bodyToJson b = (BodyForm.base64 (Base64.encode b)).toJson) ∧
    (∀ text b, Base64.decode? text = some b ↔ text = Base64.encode b) ∧
    (∀ text text' b, Base64.decode? text = some b → Base64.decode? text' = some b →
      text = text') ∧
    ∀ v b, bodyOfJson? v = some b → ∃ form, BodyForm.ofJson? v = some form ∧
      form.bytes? = some b ∧
      (rewriteBody? v = some form.toJson ∨
        ∃ data text, form = .base64 data ∧ Utf8.WellFormed b ∧ textBytes text = b ∧
          rewriteBody? v = some (BodyForm.utf8 text).toJson) ∧
      (rewriteBody? v >>= rewriteBody?) = rewriteBody? v := by
  refine ⟨bodyOfJson?_bodyToJson, ?_, ?_, ?_, Base64.decode?_eq_some_iff, ?_, ?_⟩
  · exact .of_legible _ _ (fun b => legible_body 0 b (by decide)) bodyOfJson?_bodyToJson
  · intro b
    constructor
    · rintro ⟨text, h⟩
      have hread := bodyOfJson?_bodyToJson b
      rw [h] at hread
      cases hread
      exact Utf8.wellFormed_textBytes text
    · intro h
      obtain ⟨text, rfl⟩ := h.exists_text
      exact ⟨text, by rw [← BodyForm.toJson_ofBytes, BodyForm.ofBytes_text]⟩
  · intro b h
    rw [← BodyForm.toJson_ofBytes, BodyForm.ofBytes_of_not_wellFormed b h]
  · intro text text' b h h'
    rw [(Base64.decode?_eq_some_iff text b).mp h, (Base64.decode?_eq_some_iff text' b).mp h']
  · intro v b h
    have hform := h
    rw [BodyForm.bodyOfJson?_eq] at hform
    obtain ⟨form, hread, hbytes⟩ := Option.bind_eq_some_iff.mp hform
    have hwrite : rewriteBody? v = some (BodyForm.ofBytes b).toJson := by
      rw [rewriteBody?, h, Option.map_some, BodyForm.toJson_ofBytes]
    refine ⟨form, hread, hbytes, ?_, ?_⟩
    · rw [hwrite]
      rcases form.ofBytes_cases b hbytes with heq | ⟨data, text, hdata, rfl, heq⟩
      · exact .inl (by rw [heq])
      · exact .inr ⟨data, text, hdata, Utf8.wellFormed_textBytes text, rfl, by rw [heq]⟩
    · rw [hwrite, BodyForm.toJson_ofBytes, Option.bind_eq_bind, Option.bind_some, rewriteBody?,
        bodyOfJson?_bodyToJson, Option.map_some]

/-- Base64 of a text, given as an array, becomes the text and stays it; a lone tail byte is written
in base64. -/
theorem bodies_have_one_form_greeting :
    bodyOfJson? (.arr [.str "base64", .str "aGk="]) = some [104, 105] ∧
      rewriteBody? (.arr [.str "base64", .str "aGk="]) = some (BodyForm.utf8 "hi").toJson ∧
      rewriteBody? (BodyForm.utf8 "hi").toJson = some (BodyForm.utf8 "hi").toJson ∧
      bodyToJson [0x80] = (BodyForm.base64 "gA==").toJson := by
  obtain ⟨-, -, -, hbinary, -, -, hrewrite⟩ := bodies_have_one_form
  have hread : bodyOfJson? (.arr [.str "base64", .str "aGk="]) = some [104, 105] := by
    decide +kernel
  have hhi : textBytes "hi" = [104, 105] := by decide +kernel
  have hwritten :
      rewriteBody? (.arr [.str "base64", .str "aGk="]) = some (BodyForm.utf8 "hi").toJson := by
    rw [rewriteBody?, hread, Option.map_some, ← hhi, ← BodyForm.toJson_ofBytes,
      BodyForm.ofBytes_text]
  have hlone : ¬ Utf8.WellFormed [0x80] := by
    rintro (_ | ⟨_, _, ha, _⟩)
    exact absurd ha (by decide)
  obtain ⟨-, -, -, -, hagain⟩ := hrewrite _ _ hread
  rw [hwritten] at hagain
  exact ⟨hread, hwritten, hagain, hbinary [0x80] hlone⟩

end PacketReplay
