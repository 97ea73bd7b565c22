import PacketReplay.Packet.Codec

set_option autoImplicit false

namespace PacketReplay

namespace Base64

theorem value?_digit (n : Nat) (h : n < 64) : value? (digit n) = some n := by
  revert n
  decide

theorem digit_ne_padding (n : Nat) (h : n < 64) : digit n ≠ '=' := by
  revert n
  decide

theorem toUInt8_eq (n : Nat) (a : UInt8) (h : n = a.toNat) : n.toUInt8 = a := by
  rw [h]
  exact UInt8.ofNat_toNat

/-! The bytes of a group are put together again from the parts that `encodeChars` cuts them into. -/

section

variable (a b c : UInt8)

theorem decodeChars_one :
    decodeChars [digit (a.toNat / 4), digit (a.toNat % 4 * 16), '=', '='] = some [a] := by
  have ha := a.toNat_lt
  have hp := value?_digit (a.toNat / 4) (by omega)
  have hq := value?_digit (a.toNat % 4 * 16) (by omega)
  have hx := toUInt8_eq (a.toNat / 4 * 4 + a.toNat % 4 * 16 / 16) a (by omega)
  rw [decodeChars, hp, hq]
  simp only [Option.bind_eq_bind, Option.bind_some]
  rw [if_pos (by omega), hx]

theorem decodeChars_two :
    decodeChars [digit (a.toNat / 4), digit (a.toNat % 4 * 16 + b.toNat / 16),
      digit (b.toNat % 16 * 4), '='] = some [a, b] := by
  have ha := a.toNat_lt
  have hb := b.toNat_lt
  have hp := value?_digit (a.toNat / 4) (by omega)
  have hq := value?_digit (a.toNat % 4 * 16 + b.toNat / 16) (by omega)
  have hr := value?_digit (b.toNat % 16 * 4) (by omega)
  have hx := toUInt8_eq (a.toNat / 4 * 4 + (a.toNat % 4 * 16 + b.toNat / 16) / 16) a (by omega)
  have hy := toUInt8_eq
    ((a.toNat % 4 * 16 + b.toNat / 16) % 16 * 16 + b.toNat % 16 * 4 / 4) b (by omega)
  rw [decodeChars.eq_3 _ _ _ (digit_ne_padding _ (by omega)), hp, hq, hr]
  simp only [Option.bind_eq_bind, Option.bind_some]
  rw [if_pos (by omega), hx, hy]

theorem decodeChars_three (rest : List Char) :
    decodeChars (digit (a.toNat / 4) :: digit (a.toNat % 4 * 16 + b.toNat / 16) ::
      digit (b.toNat % 16 * 4 + c.toNat / 64) :: digit (c.toNat % 64) :: rest) =
      (decodeChars rest).map fun tail => a :: b :: c :: tail := by
  have ha := a.toNat_lt
  have hb := b.toNat_lt
  have hc := c.toNat_lt
  have hp := value?_digit (a.toNat / 4) (by omega)
  have hq := value?_digit (a.toNat % 4 * 16 + b.toNat / 16) (by omega)
  have hr := value?_digit (b.toNat % 16 * 4 + c.toNat / 64) (by omega)
  have hs := value?_digit (c.toNat % 64) (by omega)
  have hx := toUInt8_eq (a.toNat / 4 * 4 + (a.toNat % 4 * 16 + b.toNat / 16) / 16) a (by omega)
  have hy := toUInt8_eq ((a.toNat % 4 * 16 + b.toNat / 16) % 16 * 16 +
    (b.toNat % 16 * 4 + c.toNat / 64) / 4) b (by omega)
  have hz := toUInt8_eq ((b.toNat % 16 * 4 + c.toNat / 64) % 4 * 64 + c.toNat % 64) c (by omega)
  -- the last character of a full group is a digit, so the group is not taken for a padded one
  have hlast := digit_ne_padding (c.toNat % 64) (by omega)
  rw [decodeChars.eq_4 _ _ _ _ _ (fun _ h _ => hlast h) (fun h _ => hlast h), hp, hq, hr, hs]
  simp only [Option.bind_eq_bind, Option.bind_some]
  rw [hx, hy, hz]
  cases decodeChars rest <;> rfl

end

theorem decodeChars_encodeChars (b : Bytes) : decodeChars (encodeChars b) = some b := by
  fun_induction encodeChars b with
  | case1 => rfl
  | case2 a => exact decodeChars_one a
  | case3 a b => exact decodeChars_two a b
  | case4 a b c rest ih => rw [decodeChars_three, ih, Option.map_some]

theorem decode?_encode (b : Bytes) : decode? (encode b) = some b := by
  rw [decode?, encode, String.toList_ofList, decodeChars_encodeChars]

end Base64

theorem textBytes_of_bytesText? (b : Bytes) (s : String) (h : bytesText? b = some s) :
    textBytes s = b := by
  rw [bytesText?, String.fromUTF8?] at h
  split at h
  · cases h
    rfl
  · cases h

theorem bytesText?_textBytes (s : String) : bytesText? (textBytes s) = some s := by
  have hbytes : (⟨(textBytes s).toArray⟩ : ByteArray) = s.toByteArray := rfl
  rw [bytesText?, hbytes, String.fromUTF8?, dif_pos s.isValidUTF8]
  rfl

theorem bodyOfJson?_bodyToJson (b : Bytes) : bodyOfJson? (bodyToJson b) = some b := by
  unfold bodyToJson
  split
  · rename_i text h
    exact congrArg some (textBytes_of_bytesText? b text h)
  · exact Base64.decode?_encode b

end PacketReplay
