import Mathlib.Tactic.SplitIfs
import PacketReplay.Proofs.LiteralMatches

set_option autoImplicit false

namespace PacketReplay

namespace Utf8

theorem isTail_iff (b : UInt8) : isTail b = true ↔ 0x80 ≤ b.toNat ∧ b.toNat < 0xC0 := by
  simp only [isTail, Bool.and_eq_true, decide_eq_true_eq, UInt8.le_iff_toNat_le]
  exact and_congr_right fun _ => Nat.lt_succ_iff.symm

/-- Bytes that are UTF-8: each code point takes one to four bytes, as few as it can, and is neither
a surrogate nor above U+10FFFF. -/
inductive WellFormed : Bytes → Prop where
  | nil : WellFormed []
  | one (a : UInt8) (rest : Bytes) (ha : a ≤ 0x7F) (h : WellFormed rest) : WellFormed (a :: rest)
  | two (a b : UInt8) (rest : Bytes) (ha : 0xC2 ≤ a ∧ a ≤ 0xDF) (hb : isTail b = true)
    (h : WellFormed rest) : WellFormed (a :: b :: rest)
  | three (a b c : UInt8) (rest : Bytes) (ha : 0xE0 ≤ a ∧ a ≤ 0xEF) (hb : isTail b = true)
    (hc : isTail c = true) (notOverlong : a = 0xE0 → 0xA0 ≤ b) (notSurrogate : a = 0xED → b ≤ 0x9F)
    (h : WellFormed rest) : WellFormed (a :: b :: c :: rest)
  | four (a b c d : UInt8) (rest : Bytes) (ha : 0xF0 ≤ a ∧ a ≤ 0xF4) (hb : isTail b = true)
    (hc : isTail c = true) (hd : isTail d = true) (notOverlong : a = 0xF0 → 0x90 ≤ b)
    (notAbove : a = 0xF4 → b ≤ 0x8F) (h : WellFormed rest) : WellFormed (a :: b :: c :: d :: rest)

theorem WellFormed.char (c : Char) (rest : Bytes) (h : WellFormed rest) :
    WellFormed (String.utf8EncodeChar c ++ rest) := by
  have hvalid : c.val.toNat < 0xD800 ∨ 0xDFFF < c.val.toNat ∧ c.val.toNat < 0x110000 := c.valid
  unfold String.utf8EncodeChar
  generalize c.val.toNat = n at hvalid
  have hbyte (k : Nat) (hk : k < 256) : (UInt8.ofNat k).toNat = k := UInt8.toNat_ofNat_of_lt hk
  have htail (k : Nat) : isTail (UInt8.ofNat (k % 64 + 128)) = true := by
    rw [isTail_iff, hbyte _ (by omega)]
    omega
  dsimp only
  split_ifs with h₁ h₂ h₃
  · refine .one _ _ ?_ h
    rw [UInt8.le_iff_toNat_le, hbyte n (by omega)]
    exact h₁
  · have ha := hbyte (n / 64 % 32 + 192) (by omega)
    refine .two _ _ _ ?_ (htail _) h
    simp only [UInt8.le_iff_toNat_le, ha, UInt8.reduceToNat]
    omega
  · have ha := hbyte (n / 4096 % 16 + 224) (by omega)
    have hb := hbyte (n / 64 % 64 + 128) (by omega)
    refine .three _ _ _ _ ?_ (htail _) (htail _) ?_ ?_ h <;>
      simp only [← UInt8.toNat_inj, UInt8.le_iff_toNat_le, ha, hb, UInt8.reduceToNat] <;> omega
  · have ha := hbyte (n / 262144 % 8 + 240) (by omega)
    have hb := hbyte (n / 4096 % 64 + 128) (by omega)
    refine .four _ _ _ _ _ ?_ (htail _) (htail _) (htail _) ?_ ?_ h <;>
      simp only [← UInt8.toNat_inj, UInt8.le_iff_toNat_le, ha, hb, UInt8.reduceToNat] <;> omega

theorem exists_char (n : Nat) (h : n < 0xD800 ∨ 0xDFFF < n ∧ n < 0x110000) :
    ∃ c : Char, c.val.toNat = n :=
  ⟨Char.ofNatAux n h, rfl⟩

theorem eq_ofNat (b : UInt8) (n : Nat) (h : n = b.toNat) : UInt8.ofNat n = b := by
  rw [h, UInt8.ofNat_toNat]

theorem WellFormed.exists_chars (b : Bytes) (h : WellFormed b) : ∃ cs, charsBytes cs = b := by
  induction h with
  | nil => exact ⟨[], rfl⟩
  | one a rest ha _ ih =>
    obtain ⟨cs, rfl⟩ := ih
    simp only [UInt8.le_iff_toNat_le, UInt8.reduceToNat] at ha
    obtain ⟨x, hx⟩ := exists_char a.toNat (by omega)
    refine ⟨x :: cs, ?_⟩
    rw [charsBytes_cons, String.utf8EncodeChar, hx]
    rw [if_pos (by omega), eq_ofNat a _ rfl]
    rfl
  | two a b rest ha hb _ ih =>
    obtain ⟨cs, rfl⟩ := ih
    rw [isTail_iff] at hb
    simp only [UInt8.le_iff_toNat_le, UInt8.reduceToNat] at ha
    obtain ⟨x, hx⟩ := exists_char (a.toNat % 32 * 64 + b.toNat % 64) (by omega)
    refine ⟨x :: cs, ?_⟩
    rw [charsBytes_cons, String.utf8EncodeChar, hx]
    rw [if_neg (by omega), if_pos (by omega), eq_ofNat a _ (by omega), eq_ofNat b _ (by omega)]
    rfl
  | three a b c rest ha hb hc hlong hsurrogate _ ih =>
    obtain ⟨cs, rfl⟩ := ih
    rw [isTail_iff] at hb hc
    simp only [UInt8.le_iff_toNat_le, ← UInt8.toNat_inj, UInt8.reduceToNat] at ha hlong hsurrogate
    obtain ⟨x, hx⟩ :=
      exists_char ((a.toNat % 16 * 64 + b.toNat % 64) * 64 + c.toNat % 64) (by omega)
    refine ⟨x :: cs, ?_⟩
    rw [charsBytes_cons, String.utf8EncodeChar, hx]
    rw [if_neg (by omega), if_neg (by omega), if_pos (by omega), eq_ofNat a _ (by omega),
      eq_ofNat b _ (by omega), eq_ofNat c _ (by omega)]
    rfl
  | four a b c d rest ha hb hc hd hlong habove _ ih =>
    obtain ⟨cs, rfl⟩ := ih
    rw [isTail_iff] at hb hc hd
    simp only [UInt8.le_iff_toNat_le, ← UInt8.toNat_inj, UInt8.reduceToNat] at ha hlong habove
    obtain ⟨x, hx⟩ := exists_char
      (((a.toNat % 8 * 64 + b.toNat % 64) * 64 + c.toNat % 64) * 64 + d.toNat % 64) (by omega)
    refine ⟨x :: cs, ?_⟩
    rw [charsBytes_cons, String.utf8EncodeChar, hx]
    rw [if_neg (by omega), if_neg (by omega), if_neg (by omega), eq_ofNat a _ (by omega),
      eq_ofNat b _ (by omega), eq_ofNat c _ (by omega), eq_ofNat d _ (by omega)]
    rfl

theorem wellFormed_textBytes (s : String) : WellFormed (textBytes s) := by
  rw [textBytes_eq]
  induction s.toList with
  | nil => exact .nil
  | cons c cs ih =>
    rw [charsBytes_cons]
    exact .char c _ ih

theorem WellFormed.exists_text (b : Bytes) (h : WellFormed b) : ∃ s, textBytes s = b := by
  obtain ⟨cs, rfl⟩ := h.exists_chars
  exact ⟨.ofList cs, by rw [textBytes_eq, String.toList_ofList]⟩

/-- What a lead byte says of the code point that it leads: not ASCII, and no surrogate. -/
theorem lead?_cases (a : UInt8) (size : Nat) (low high : UInt8)
    (h : lead? a = some (size, low, high)) :
    0x80 ≤ low.toNat ∧ high.toNat ≤ 0xBF ∧
      (size = 2 ∧ 0xC2 ≤ a.toNat ∧ a.toNat ≤ 0xDF ∨
        size = 3 ∧ 0xE0 ≤ a.toNat ∧ a.toNat ≤ 0xEF ∧ (a.toNat ≠ 0xE0 ∨ 0xA0 ≤ low.toNat) ∧
          (a.toNat ≠ 0xED ∨ high.toNat ≤ 0x9F) ∨
        size = 4 ∧ 0xF0 ≤ a.toNat ∧ a.toNat ≤ 0xF4 ∧ (a.toNat ≠ 0xF0 ∨ 0x90 ≤ low.toNat) ∧
          (a.toNat ≠ 0xF4 ∨ high.toNat ≤ 0x8F)) := by
  have h80 : (0x80 : UInt8).toNat = 0x80 := rfl
  have h8F : (0x8F : UInt8).toNat = 0x8F := rfl
  have h90 : (0x90 : UInt8).toNat = 0x90 := rfl
  have h9F : (0x9F : UInt8).toNat = 0x9F := rfl
  have hA0 : (0xA0 : UInt8).toNat = 0xA0 := rfl
  have hBF : (0xBF : UInt8).toNat = 0xBF := rfl
  unfold lead? at h
  simp only [Bool.and_eq_true, decide_eq_true_eq, beq_iff_eq, UInt8.le_iff_toNat_le,
    ← UInt8.toNat_inj, UInt8.reduceToNat] at h
  split_ifs at h <;> cases h <;> omega

theorem toNat_ofNat (n : Nat) (h : n < 0xD800 ∨ 0xDFFF < n ∧ n < 0x110000) :
    (Char.ofNat n).toNat = n := by
  rw [Char.ofNat, dif_pos h]
  rfl

theorem front_of_lead (a : UInt8) (rest : Bytes) (size : Nat) (low high : UInt8)
    (hlead : lead? a = some (size, low, high)) (c : Char) (n : Nat) (ha : ¬ a < 0x80)
    (h : front (a :: rest) = .char c n) : 128 ≤ c.toNat := by
  obtain ⟨hlow, hhigh, hcases⟩ := lead?_cases a size low high hlead
  rw [front, if_neg ha, hlead] at h
  rcases rest with _ | ⟨b, rest⟩
  · cases h
  dsimp only at h
  split at h
  case isFalse => cases h
  rename_i hb
  simp only [Bool.and_eq_true, decide_eq_true_eq, UInt8.le_iff_toNat_le] at hb
  split at h
  · rename_i htwo
    rw [beq_iff_eq] at htwo
    cases h
    unfold tailBits
    rw [toNat_ofNat _ (by omega)]
    omega
  · rename_i htwo
    rw [beq_iff_eq] at htwo
    rcases rest with _ | ⟨d, rest⟩
    · cases h
    dsimp only at h
    split at h
    case isFalse => cases h
    rename_i hd
    have hd := (isTail_iff d).mp hd
    split at h
    · rename_i hthree
      rw [beq_iff_eq] at hthree
      cases h
      unfold tailBits
      rw [toNat_ofNat _ (by omega)]
      omega
    · rename_i hthree
      rw [beq_iff_eq] at hthree
      rcases rest with _ | ⟨e, rest⟩
      · cases h
      dsimp only at h
      split at h
      case isFalse => cases h
      rename_i he
      have he := (isTail_iff e).mp he
      cases h
      unfold tailBits
      rw [toNat_ofNat _ (by omega)]
      omega

theorem ascii_of_front (b : Bytes) (c : Char) (size : Nat) (h : front b = .char c size)
    (hc : c.toNat < 128) : size = 1 ∧ ∃ a rest, b = a :: rest ∧ a.toNat = c.toNat := by
  cases b with
  | nil => cases h
  | cons a rest =>
    by_cases ha : a < 0x80
    · have hlt : a.toNat < 128 := UInt8.lt_iff_toNat_lt.mp ha
      rw [front, if_pos ha] at h
      cases h
      exact ⟨rfl, a, rest, rfl, (toNat_ofNat a.toNat (by omega)).symm⟩
    · cases hlead : lead? a with
      | none =>
        rw [front, if_neg ha, hlead] at h
        cases h
      | some lead =>
        obtain ⟨n, low, high⟩ := lead
        have := front_of_lead a rest n low high hlead c size ha h
        omega

end Utf8

end PacketReplay
