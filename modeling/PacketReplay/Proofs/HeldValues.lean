import Mathlib.Data.String.Basic
import PacketReplay.Proofs.JsonText

set_option autoImplicit false

namespace PacketReplay.Json

mutual

/-- Values that a text can write inside `depth` containers: integers of 64 bits, and no containers
nested too deep. -/
def Fits (depth : Nat) : Json → Prop
  | .int n => -0x8000000000000000 ≤ n ∧ n < 0x10000000000000000
  | .arr items => depth < maxDepth ∧ FitsItems (depth + 1) items
  | .obj members => depth < maxDepth ∧ FitsMembers (depth + 1) members
  | _ => True

def FitsItems (depth : Nat) : List Json → Prop
  | [] => True
  | v :: vs => Fits depth v ∧ FitsItems depth vs

def FitsMembers (depth : Nat) : List (String × Json) → Prop
  | [] => True
  | (_, v) :: ms => Fits depth v ∧ FitsMembers depth ms

end

theorem fitsMembers_iff (depth : Nat) (members : List (String × Json)) :
    FitsMembers depth members ↔ ∀ m ∈ members, Fits depth m.2 := by
  induction members with
  | nil => simp [FitsMembers]
  | cons m ms ih => simp [FitsMembers, ih]

theorem readableMembers_iff (members : List (String × Json)) :
    readableMembers members = true ↔ ∀ m ∈ members, m.2.readable = true := by
  induction members with
  | nil => simp [readableMembers]
  | cons m ms ih => simp [readableMembers, ih]

mutual

def hasFloat : Json → Bool
  | .float _ => true
  | .arr items => hasFloatItems items
  | .obj members => hasFloatMembers members
  | _ => false

def hasFloatItems : List Json → Bool
  | [] => false
  | v :: vs => hasFloat v || hasFloatItems vs

def hasFloatMembers : List (String × Json) → Bool
  | [] => false
  | (_, v) :: ms => hasFloat v || hasFloatMembers ms

end

mutual

/-- What reads back is what fits, can be read and has no doubles in it. -/
theorem legible_iff (v : Json) (depth : Nat) :
    Legible depth v ↔ Fits depth v ∧ v.readable = true ∧ v.hasFloat = false := by
  cases v with
  | null | bool | str => exact ⟨fun _ => ⟨trivial, rfl, rfl⟩, fun _ => trivial⟩
  | int n => exact ⟨fun h => ⟨h, rfl, rfl⟩, And.left⟩
  | float x => exact ⟨False.elim, fun h => by cases h.2.2⟩
  | arr items =>
    rw [Legible, legibleItems_iff_fits items (depth + 1)]
    exact and_assoc.symm
  | obj members =>
    rw [Legible, legibleMembers_iff_fits members (depth + 1)]
    exact and_assoc.symm
  | unreadable => exact ⟨False.elim, fun h => by cases h.2.1⟩

theorem legibleItems_iff_fits (vs : List Json) (depth : Nat) : LegibleItems depth vs ↔
    FitsItems depth vs ∧ readableItems vs = true ∧ hasFloatItems vs = false := by
  cases vs with
  | nil => exact ⟨fun _ => ⟨trivial, rfl, rfl⟩, fun _ => trivial⟩
  | cons v vs =>
    rw [LegibleItems, legible_iff v depth, legibleItems_iff_fits vs depth, FitsItems,
      readableItems, hasFloatItems, Bool.and_eq_true, Bool.or_eq_false_iff]
    tauto

theorem legibleMembers_iff_fits (ms : List (String × Json)) (depth : Nat) :
    LegibleMembers depth ms ↔
      FitsMembers depth ms ∧ readableMembers ms = true ∧ hasFloatMembers ms = false := by
  cases ms with
  | nil => exact ⟨fun _ => ⟨trivial, rfl, rfl⟩, fun _ => trivial⟩
  | cons m ms =>
    rw [LegibleMembers, legible_iff m.2 depth, legibleMembers_iff_fits ms depth, FitsMembers,
      readableMembers, hasFloatMembers, Bool.and_eq_true, Bool.or_eq_false_iff]
    tauto

end

theorem accumulate_lt (ds : List Nat) (n : Nat) (h : n < 0x10000000000000000) :
    (accumulate n ds).1 < 0x10000000000000000 := by
  induction ds generalizing n with
  | nil => exact h
  | cons d ds ih =>
    rw [accumulate]
    split
    · rename_i hd
      exact ih _ hd
    · exact h

theorem fits_ofFloat (depth : Nat) (x : Option Binary64) : Fits depth (ofFloat x) := by
  cases x <;> trivial

theorem fits_withExponent (depth : Nat) (negative : Bool) (n : Nat) (shift : Int)
    (expNegative : Bool) (e : Nat) : Fits depth (withExponent negative n shift expNegative e) := by
  unfold withExponent
  split_ifs
  · trivial
  · trivial
  · exact fits_ofFloat depth _
  · exact fits_ofFloat depth _

theorem fits_exponent (depth : Nat) (negative : Bool) (n : Nat) (shift : Int) (cs : List Char)
    (v : Json) (rest : List Char)
    (h : (do
      let (expNegative, e, rest) ← readExponent cs
      some (withExponent negative n shift expNegative e, rest)) = some (v, rest)) :
    Fits depth v := by
  obtain ⟨⟨expNegative, e, rest⟩, -, he⟩ := Option.bind_eq_some_iff.mp h
  cases he
  exact fits_withExponent depth negative n shift expNegative e

theorem readNumber_fits (depth : Nat) (negative : Bool) (cs : List Char) (v : Json)
    (rest : List Char) (h : readNumber negative cs = some (v, rest)) : Fits depth v := by
  unfold readNumber at h
  split at h
  · cases h
  · cases h
  · rename_i ds tail _ _ _
    have hsmall (n : Nat) (left : List Nat) (ha : accumulate 0 ds = (n, left)) :
        n < 0x10000000000000000 := by
      have hlt := accumulate_lt ds 0 (by decide)
      rwa [ha] at hlt
    repeat' split at h
    · cases h
    · exact fits_exponent depth _ _ _ _ v rest h
    · exact fits_exponent depth _ _ _ _ v rest h
    · cases h
      exact fits_ofFloat depth _
    · exact fits_exponent depth _ _ _ _ v rest h
    · exact fits_exponent depth _ _ _ _ v rest h
    · cases h
      exact fits_ofFloat depth _
    · have hn := hsmall _ _ ‹_›
      cases h
      exact ⟨by omega, by omega⟩
    · rename_i hlow
      cases h
      exact ⟨by omega, by omega⟩
    · cases h
      exact fits_ofFloat depth _

mutual

theorem readValue_fits (fuel depth : Nat) (cs : List Char) (v : Json) (rest : List Char)
    (h : readValue fuel depth cs = some (v, rest)) : Fits depth v := by
  cases fuel with
  | zero => cases h
  | succ fuel =>
    rw [readValue.eq_def] at h
    simp only at h
    split at h
    · cases h
      trivial
    · cases h
      trivial
    · cases h
      trivial
    · obtain ⟨⟨s, rest⟩, -, hs⟩ := Option.bind_eq_some_iff.mp h
      cases s <;> cases hs <;> trivial
    · exact readNumber_fits depth true _ v rest h
    · split at h
      · split at h
        · rename_i hd
          cases h
          exact ⟨hd, trivial⟩
        · cases h
          trivial
      · obtain ⟨⟨items, rest⟩, hitems, hs⟩ := Option.bind_eq_some_iff.mp h
        simp only at hs
        split at hs
        · rename_i hd
          cases hs
          exact ⟨hd, readItems_fits fuel (depth + 1) _ items _ hitems⟩
        · cases hs
          trivial
    · split at h
      · split at h
        · rename_i hd
          cases h
          exact ⟨hd, trivial⟩
        · cases h
          trivial
      · obtain ⟨⟨members, rest⟩, hmembers, hs⟩ := Option.bind_eq_some_iff.mp h
        cases members with
        | none =>
          cases hs
          trivial
        | some members =>
          simp only at hs
          split at hs
          · rename_i hd
            cases hs
            exact ⟨hd, readMembers_fits fuel (depth + 1) _ members _ hmembers⟩
          · cases hs
            trivial
    · exact readNumber_fits depth false _ v rest h
termination_by fuel

theorem readItems_fits (fuel depth : Nat) (cs : List Char) (vs : List Json) (rest : List Char)
    (h : readItems fuel depth cs = some (vs, rest)) : FitsItems depth vs := by
  cases fuel with
  | zero => cases h
  | succ fuel =>
    rw [readItems.eq_def] at h
    simp only at h
    obtain ⟨⟨v, rest⟩, hv, h⟩ := Option.bind_eq_some_iff.mp h
    have hfits := readValue_fits fuel depth _ v _ hv
    simp only at h
    split at h
    · obtain ⟨⟨vs, rest⟩, hvs, h⟩ := Option.bind_eq_some_iff.mp h
      cases h
      exact ⟨hfits, readItems_fits fuel depth _ vs _ hvs⟩
    · cases h
      exact ⟨hfits, trivial⟩
    · cases h
termination_by fuel

theorem readMembers_fits (fuel depth : Nat) (cs : List Char) (ms : List (String × Json))
    (rest : List Char) (h : readMembers fuel depth cs = some (some ms, rest)) :
    FitsMembers depth ms := by
  cases fuel with
  | zero => cases h
  | succ fuel =>
    rw [readMembers.eq_def] at h
    simp only at h
    split at h
    · obtain ⟨⟨name, rest⟩, -, h⟩ := Option.bind_eq_some_iff.mp h
      simp only at h
      split at h
      · obtain ⟨⟨v, rest⟩, hv, h⟩ := Option.bind_eq_some_iff.mp h
        have hfits := readValue_fits fuel depth _ v _ hv
        simp only at h
        split at h
        · obtain ⟨⟨others, rest⟩, hothers, h⟩ := Option.bind_eq_some_iff.mp h
          simp only at h
          split at h
          · cases h
            exact ⟨hfits, readMembers_fits fuel depth _ _ _ hothers⟩
          · cases h
        · simp only [Option.bind_eq_bind, Option.bind_some] at h
          split at h
          · cases h
            cases ‹some [] = some _›
            exact ⟨hfits, trivial⟩
          · cases h
        · cases h
      · cases h
    · cases h
termination_by fuel

end

theorem fits_of_parseText (text : String) (v : Json) (h : parseText text = some v) : Fits 0 v := by
  obtain ⟨⟨w, rest⟩, hw, he⟩ := Option.bind_eq_some_iff.mp h
  simp only at he
  split at he
  · cases he
    exact readValue_fits _ 0 _ v rest hw
  · cases he

/-- Members sorted by name, each name once. -/
def Rising (ms : List (String × Json)) : Prop :=
  ms.Pairwise fun a b => a.1 < b.1

theorem mem_insertMember (name : String) (v : Json) (ms : List (String × Json))
    (m : String × Json) (h : m ∈ insertMember name v ms) : m = (name, v) ∨ m ∈ ms := by
  induction ms with
  | nil => exact .inl (List.mem_singleton.mp h)
  | cons p ms ih =>
    rw [insertMember] at h
    split_ifs at h
    · rcases List.mem_cons.mp h with rfl | h
      · exact .inl rfl
      · exact .inr (List.mem_cons_of_mem p h)
    · exact List.mem_cons.mp h
    · rcases List.mem_cons.mp h with rfl | h
      · exact .inr List.mem_cons_self
      · exact (ih h).imp_right (List.mem_cons_of_mem p)

theorem Rising.insertMember {ms : List (String × Json)} (h : Rising ms) (name : String) (v : Json) :
    Rising (insertMember name v ms) := by
  induction ms with
  | nil => exact List.pairwise_singleton _ _
  | cons p ms ih =>
    obtain ⟨hp, hms⟩ := List.pairwise_cons.mp h
    rw [Json.insertMember]
    split_ifs with heq hlt
    · subst heq
      exact List.pairwise_cons.mpr ⟨hp, hms⟩
    · refine List.pairwise_cons.mpr ⟨fun m hm => ?_, h⟩
      rcases List.mem_cons.mp hm with rfl | hm
      · exact hlt
      · exact lt_trans hlt (hp m hm)
    · refine List.pairwise_cons.mpr ⟨fun m hm => ?_, ih hms⟩
      rcases mem_insertMember name v ms m hm with rfl | hm
      · exact lt_of_le_of_ne (not_lt.mp hlt) (Ne.symm heq)
      · exact hp m hm

theorem insertMember_last (name : String) (v : Json) (ms : List (String × Json))
    (h : ∀ m ∈ ms, m.1 < name) : insertMember name v ms = ms ++ [(name, v)] := by
  induction ms with
  | nil => rfl
  | cons p ms ih =>
    have hp := h p List.mem_cons_self
    rw [insertMember, if_neg (ne_of_gt hp), if_neg (lt_asymm hp),
      ih fun m hm => h m (List.mem_cons_of_mem p hm)]
    rfl

theorem Rising.canonicalMembers (ms : List (String × Json)) (acc : List (String × Json))
    (h : Rising acc) : Rising (canonicalMembers ms acc) := by
  induction ms generalizing acc with
  | nil => exact h
  | cons m ms ih => exact ih _ (h.insertMember m.1 m.2.canonical)

theorem mem_canonicalMembers (ms acc : List (String × Json)) (m : String × Json)
    (h : m ∈ canonicalMembers ms acc) : m ∈ acc ∨ ∃ p ∈ ms, m.2 = p.2.canonical := by
  induction ms generalizing acc with
  | nil => exact .inl h
  | cons p ms ih =>
    rcases ih _ h with hacc | ⟨q, hq, he⟩
    · rcases mem_insertMember _ _ acc m hacc with rfl | hacc
      · exact .inr ⟨p, List.mem_cons_self, rfl⟩
      · exact .inl hacc
    · exact .inr ⟨q, List.mem_cons_of_mem p hq, he⟩

theorem mem_canonicalMembers_nil (ms : List (String × Json)) (m : String × Json)
    (h : m ∈ canonicalMembers ms []) : ∃ p ∈ ms, m.2 = p.2.canonical := by
  rcases mem_canonicalMembers ms [] m h with hnil | hp
  · cases hnil
  · exact hp

theorem canonicalMembers_eq (ms acc : List (String × Json)) (h : Rising (acc ++ ms))
    (hc : ∀ m ∈ ms, m.2.canonical = m.2) : canonicalMembers ms acc = acc ++ ms := by
  induction ms generalizing acc with
  | nil => exact (List.append_nil acc).symm
  | cons m ms ih =>
    have hlast : ∀ p ∈ acc, p.1 < m.1 := fun p hp =>
      (List.pairwise_append.mp h).2.2 p hp m List.mem_cons_self
    have hsplit : acc ++ m :: ms = (acc ++ [m]) ++ ms := by simp
    rw [canonicalMembers, hc m List.mem_cons_self, insertMember_last _ _ acc hlast, hsplit]
    exact ih (acc ++ [m]) (hsplit ▸ h) fun p hp => hc p (List.mem_cons_of_mem m hp)

mutual

theorem canonical_canonical (v : Json) : v.canonical.canonical = v.canonical := by
  cases v with
  | arr items => rw [canonical, canonical, canonicalItems_canonical items]
  | obj members =>
    have hvalues : ∀ m ∈ canonicalMembers members [], m.2.canonical = m.2 := by
      intro m hm
      obtain ⟨p, hp, he⟩ := mem_canonicalMembers_nil members m hm
      rw [he]
      exact canonicalMembers_canonical members p hp
    rw [canonical, canonical, canonicalMembers_eq _ [] (Rising.canonicalMembers members [] .nil)
      hvalues, List.nil_append]
  | _ => rfl

theorem canonicalItems_canonical (vs : List Json) :
    canonicalItems (canonicalItems vs) = canonicalItems vs := by
  cases vs with
  | nil => rfl
  | cons v vs =>
    rw [canonicalItems, canonicalItems, canonical_canonical v, canonicalItems_canonical vs]

theorem canonicalMembers_canonical (ms : List (String × Json)) :
    ∀ m ∈ ms, m.2.canonical.canonical = m.2.canonical := by
  cases ms with
  | nil => simp
  | cons m ms =>
    intro p hp
    have hm := canonical_canonical m.2
    have hms := canonicalMembers_canonical ms
    rcases List.mem_cons.mp hp with rfl | hp
    · exact hm
    · exact hms p hp

end

mutual

theorem fits_canonical (v : Json) (depth : Nat) (h : Fits depth v) : Fits depth v.canonical := by
  cases v with
  | arr items => exact ⟨h.1, fitsItems_canonical items (depth + 1) h.2⟩
  | obj members =>
    refine ⟨h.1, (fitsMembers_iff _ _).mpr fun m hm => ?_⟩
    obtain ⟨p, hp, he⟩ := mem_canonicalMembers_nil members m hm
    rw [he]
    exact fitsMembers_canonical members (depth + 1) h.2 p hp
  | _ => exact h

theorem fitsItems_canonical (vs : List Json) (depth : Nat) (h : FitsItems depth vs) :
    FitsItems depth (canonicalItems vs) := by
  cases vs with
  | nil => trivial
  | cons v vs => exact ⟨fits_canonical v depth h.1, fitsItems_canonical vs depth h.2⟩

theorem fitsMembers_canonical (ms : List (String × Json)) (depth : Nat)
    (h : FitsMembers depth ms) : ∀ m ∈ ms, Fits depth m.2.canonical := by
  cases ms with
  | nil => simp
  | cons m ms =>
    intro p hp
    have hm := fits_canonical m.2 depth h.1
    have hms := fitsMembers_canonical ms depth h.2
    rcases List.mem_cons.mp hp with rfl | hp
    · exact hm
    · exact hms p hp

end

mutual

theorem readable_canonical (v : Json) (h : v.readable = true) : v.canonical.readable = true := by
  cases v with
  | arr items => exact readableItems_canonical items h
  | obj members =>
    refine (readableMembers_iff _).mpr fun m hm => ?_
    obtain ⟨p, hp, he⟩ := mem_canonicalMembers_nil members m hm
    rw [he]
    exact readableMembers_canonical members h p hp
  | _ => exact h

theorem readableItems_canonical (vs : List Json) (h : readableItems vs = true) :
    readableItems (canonicalItems vs) = true := by
  cases vs with
  | nil => rfl
  | cons v vs =>
    obtain ⟨hv, hvs⟩ := Bool.and_eq_true_iff.mp h
    exact Bool.and_eq_true_iff.mpr ⟨readable_canonical v hv, readableItems_canonical vs hvs⟩

theorem readableMembers_canonical (ms : List (String × Json)) (h : readableMembers ms = true) :
    ∀ m ∈ ms, m.2.canonical.readable = true := by
  cases ms with
  | nil => simp
  | cons m ms =>
    intro p hp
    obtain ⟨hv, hvs⟩ := Bool.and_eq_true_iff.mp h
    have hm := readable_canonical m.2 hv
    have hms := readableMembers_canonical ms hvs
    rcases List.mem_cons.mp hp with rfl | hp
    · exact hm
    · exact hms p hp

end

/-- The members of an object as a map in memory holds them. -/
structure Held (ms : List (String × Json)) : Prop where
  rising : Rising ms
  canonical : ∀ m ∈ ms, m.2.canonical = m.2
  fits : ∀ m ∈ ms, Fits 1 m.2
  readable : ∀ m ∈ ms, m.2.readable = true

namespace Held

variable {ms : List (String × Json)}

theorem nil : Held [] :=
  ⟨.nil, by simp, by simp, by simp⟩

theorem insertMember (h : Held ms) (name : String) (v : Json) (hc : v.canonical = v)
    (hf : Fits 1 v) (hr : v.readable = true) : Held (insertMember name v ms) := by
  have hcases := mem_insertMember name v ms
  refine ⟨h.rising.insertMember name v, ?_, ?_, ?_⟩ <;> intro m hm <;>
    rcases hcases m hm with rfl | hm
  · exact hc
  · exact h.canonical m hm
  · exact hf
  · exact h.fits m hm
  · exact hr
  · exact h.readable m hm

theorem canonicalMembers (hf : FitsMembers 1 ms) (hr : readableMembers ms = true) :
    Held (canonicalMembers ms []) := by
  have hcases := mem_canonicalMembers_nil ms
  refine ⟨Rising.canonicalMembers ms [] .nil, ?_, ?_, ?_⟩ <;> intro m hm <;>
    obtain ⟨p, hp, he⟩ := hcases m hm <;> rw [he]
  · exact canonical_canonical p.2
  · exact fitsMembers_canonical ms 1 hf p hp
  · exact readableMembers_canonical ms hr p hp

theorem canonicalMembers_eq_self (h : Held ms) : Json.canonicalMembers ms [] = ms :=
  canonicalMembers_eq ms [] h.rising h.canonical

theorem legible (h : Held ms) (hfloat : hasFloatMembers ms = false) : Legible 0 (.obj ms) := by
  have hfits := (fitsMembers_iff 1 ms).mpr h.fits
  exact (legible_iff _ 0).mpr ⟨⟨by decide, hfits⟩, (readableMembers_iff ms).mpr h.readable, hfloat⟩

end Held

end PacketReplay.Json
