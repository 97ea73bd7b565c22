import PacketReplay.Proofs.PlainPatterns
import PacketReplay.Proofs.Utf8Bytes

/-!
# Searching for plain patterns

The program of a plain pattern is a chain: each state reads one character and goes on to the next
one. Started at a position it comes to its end exactly if the bytes of the pattern stand there, and
what it visited on the way is of no use to a later start if it failed. So the search of the program
finds what the search for the bytes finds.
-/

set_option autoImplicit false

namespace PacketReplay

namespace Regex

theorem stripFront?_isSome_iff {α : Type} [DecidableEq α] (pattern xs : List α) :
    (stripFront? pattern xs).isSome = true ↔ pattern <+: xs := by
  rw [Option.isSome_iff_exists]
  exact exists_congr (stripFront?_eq_some_iff pattern xs)

theorem findBytes_of_front (needle : Bytes) (hne : needle ≠ []) (i : Nat) (xs : Bytes)
    (h : needle <+: xs) : findBytes needle i xs = some i := by
  cases xs with
  | nil => exact absurd (List.prefix_nil.mp h) hne
  | cons b xs => rw [findBytes, if_pos ((stripFront?_isSome_iff _ _).mpr h)]

theorem findBytes_of_ahead (needle : Bytes) (hne : needle ≠ []) (i : Nat) (xs : Bytes)
    (h : ¬ needle <+: xs) : findBytes needle i xs = findBytes needle (i + 1) xs.tail := by
  cases xs with
  | nil =>
    have hempty : ¬ needle.isEmpty = true := by simpa using hne
    rw [List.tail_nil, findBytes, findBytes, if_neg hempty, if_neg hempty]
  | cons b xs => rw [findBytes, if_neg (mt (stripFront?_isSome_iff _ _).mp h), List.tail_cons]

end Regex

namespace Pattern

structure Program.IsChain (p : Program) (cs : List Char) : Prop where
  start : p.start = cs.length
  accept : p.states[0]? = some .accept
  char : ∀ c rest, (c :: rest) <:+ cs →
    p.states[rest.length + 1]? = some (.char (CharSet.one c.toNat) rest.length)

theorem chain_cons (next : Nat) (states : Array State) (c : Char) (cs : List Char) :
    chain next states (c :: cs) =
      ((chain next states cs).2.size,
        (chain next states cs).2.push (.char (CharSet.one c.toNat) (chain next states cs).1)) := rfl

theorem chain_size (cs : List Char) :
    (chain 0 #[.accept] cs).1 = cs.length ∧ (chain 0 #[.accept] cs).2.size = cs.length + 1 := by
  induction cs with
  | nil => exact ⟨rfl, rfl⟩
  | cons c cs ih =>
    rw [chain_cons, Array.size_push, ih.2]
    exact ⟨rfl, rfl⟩

theorem isChain_chainProgram (cs : List Char) : (chainProgram cs).IsChain cs where
  start := (chain_size cs).1
  accept := by
    change (chain 0 #[.accept] cs).2[0]? = _
    induction cs with
    | nil => rfl
    | cons c cs ih =>
      rw [chain_cons, Array.getElem?_push, if_neg, ih]
      rw [(chain_size cs).2]
      omega
  char := by
    change ∀ (c : Char) (rest : List Char), _ → (chain 0 #[.accept] cs).2[rest.length + 1]? = _
    induction cs with
    | nil => exact fun c rest h => absurd (List.suffix_nil.mp h) (List.cons_ne_nil c rest)
    | cons d cs ih =>
      intro c rest h
      rw [chain_cons, Array.getElem?_push, (chain_size cs).1, (chain_size cs).2]
      rcases List.suffix_cons_iff.mp h with heq | h
      · cases heq
        rw [if_pos rfl]
      · have hlength := h.length_le
        rw [List.length_cons] at hlength
        rw [if_neg (by omega), ih c rest h]

theorem edges_chainProgram (cs : List Char) : (chainProgram cs).edges = cs.length + 1 := by
  change (chain 0 #[.accept] cs).2.foldl _ 0 = _
  induction cs with
  | nil => rfl
  | cons c cs ih =>
    rw [chain_cons, Array.foldl_push, ih, List.length_cons]

section

variable (h : Array UInt8)

theorem frontAt_eq (i : Nat) : frontAt h i = Utf8.front ((h.toList.drop i).take 4) := by
  rw [frontAt, Array.toList_extract, List.extract_eq_take_drop, Nat.add_sub_cancel_left]

theorem front_of_getElem? (i : Nat) (b : UInt8) (hi : h[i]? = some b) :
    ∃ rest, (h.toList.drop i).take 4 = b :: rest := by
  rw [← Array.getElem?_toList, ← List.head?_drop, List.head?_eq_some_iff] at hi
  obtain ⟨rest, hrest⟩ := hi
  exact ⟨rest.take 3, by rw [hrest, List.take_succ_cons]⟩

theorem toNat_plain (c : Char) (hc : isPlain c = true) : c.toNat.toUInt8.toNat = c.toNat := by
  have hlt := isPlain_lt c hc
  exact UInt8.toNat_ofNat_of_lt (by change c.toNat < 256; omega)

theorem frontAt_plain (i : Nat) (c : Char) (hc : isPlain c = true)
    (hi : h[i]? = some c.toNat.toUInt8) : frontAt h i = .char c 1 := by
  obtain ⟨rest, hrest⟩ := front_of_getElem? h i _ hi
  have hascii : c.toNat.toUInt8 < 0x80 := by
    rw [UInt8.lt_iff_toNat_lt, toNat_plain c hc]
    exact isPlain_lt c hc
  rw [frontAt_eq, hrest, Utf8.front, if_pos hascii, toNat_plain c hc, Char.ofNat_toNat]

theorem plain_of_frontAt (i : Nat) (c d : Char) (size : Nat) (hc : isPlain c = true)
    (hfront : frontAt h i = .char d size) (hd : d.toNat = c.toNat) :
    size = 1 ∧ h[i]? = some c.toNat.toUInt8 := by
  rw [frontAt_eq] at hfront
  obtain ⟨hsize, a, rest, hrest, ha⟩ :=
    Utf8.ascii_of_front _ d size hfront (hd ▸ isPlain_lt c hc)
  have hbyte : a = c.toNat.toUInt8 := by
    rw [← UInt8.toNat_inj, ha, hd, toNat_plain c hc]
  have hhead := congrArg List.head? hrest
  rw [List.head?_take, if_neg (by decide), List.head?_drop, Array.getElem?_toList] at hhead
  exact ⟨hsize, hbyte ▸ hhead⟩

theorem has_one (n m : Nat) : (CharSet.one n).has m = true ↔ m = n := by
  simp only [CharSet.one, CharSet.has, List.any_cons, List.any_nil, Bool.or_false, Bool.and_eq_true,
    decide_eq_true_eq]
  omega

theorem step_chain (p : Program) (cs : List Char) (hp : p.IsChain cs) (c : Char) (rest : List Char)
    (hc : isPlain c = true) (hrest : (c :: rest) <:+ cs) (i : Nat) (slots : Slots) :
    p.step h ⟨rest.length + 1, i, slots⟩ =
      some (if h[i]? = some c.toNat.toUInt8 then [⟨rest.length, i + 1, slots⟩] else []) := by
  simp only [Program.step, hp.char c rest hrest]
  by_cases hi : h[i]? = some c.toNat.toUInt8
  · simp only [frontAt_plain h i c hc hi, if_pos hi, (has_one c.toNat c.toNat).mpr rfl, if_true]
  · rw [if_neg hi]
    cases hfront : frontAt h i with
    | char d size =>
      have hnot : ¬ (CharSet.one c.toNat).has d.toNat = true := fun hhas =>
        hi (plain_of_frontAt h i c d size hc hfront ((has_one _ _).mp hhas)).2
      simp only [if_neg hnot]
    | broken size => rfl
    | done => rfl

end

section

variable (h : Array UInt8)

def Stands (cs : List Char) (i : Nat) : Prop :=
  charsBytes cs <+: h.toList.drop i

def place (rest : List Char) (i : Nat) : Nat :=
  rest.length * (h.size + 1) + i

/-- What was visited leads to no match. -/
def Fruitless (cs : List Char) (visited : Visited) : Prop :=
  ∀ rest i, rest <:+ cs → i ≤ h.size → visited.contains (place h rest i) = true → ¬ Stands h rest i

theorem fruitless_empty (cs : List Char) (n : Nat) :
    Fruitless h cs (Std.HashSet.emptyWithCapacity n) := by
  intro rest i _ _ hmem
  simp at hmem

theorem place_inj (rest rest' : List Char) (i i' : Nat) (hi : i ≤ h.size) (hi' : i' ≤ h.size)
    (heq : place h rest i = place h rest' i') : rest.length = rest'.length ∧ i = i' := by
  have hsplit (cs : List Char) (k : Nat) (hk : k ≤ h.size) :
      place h cs k / (h.size + 1) = cs.length ∧ place h cs k % (h.size + 1) = k := by
    have hlt : k < h.size + 1 := Nat.lt_succ_of_le hk
    rw [place, Nat.add_comm, Nat.add_mul_div_right _ _ (Nat.succ_pos _), Nat.add_mul_mod_self_right,
      Nat.div_eq_of_lt hlt, Nat.mod_eq_of_lt hlt, Nat.zero_add]
    exact ⟨rfl, rfl⟩
  obtain ⟨hdiv, hmod⟩ := hsplit rest i hi
  obtain ⟨hdiv', hmod'⟩ := hsplit rest' i' hi'
  rw [heq] at hdiv hmod
  exact ⟨hdiv.symm.trans hdiv', hmod.symm.trans hmod'⟩

theorem stands_nil (i : Nat) : Stands h [] i :=
  List.nil_prefix

theorem stands_cons (c : Char) (rest : List Char) (hc : isPlain c = true) (i : Nat) :
    Stands h (c :: rest) i ↔ h[i]? = some c.toNat.toUInt8 ∧ Stands h rest (i + 1) := by
  have htail : h.toList.drop (i + 1) = (h.toList.drop i).tail := List.tail_drop.symm
  rw [Stands, Stands, charsBytes_cons, utf8EncodeChar_plain c hc, htail, ← Array.getElem?_toList,
    ← List.head?_drop, List.singleton_append]
  cases h.toList.drop i with
  | nil => simp
  | cons b bs =>
    rw [List.cons_prefix_cons, List.head?_cons, List.tail_cons, Option.some_inj, eq_comm]

theorem succ_le_size (i : Nat) (b : UInt8) (hi : h[i]? = some b) : i + 1 ≤ h.size :=
  (Array.getElem?_eq_some_iff.mp hi).1

theorem stands_append (gone left : List Char) (hgone : ∀ c ∈ gone, isPlain c = true) (i : Nat)
    (hi : i ≤ h.size) (hstands : Stands h (gone ++ left) i) :
    Stands h left (i + gone.length) ∧ i + gone.length ≤ h.size := by
  induction gone generalizing i with
  | nil => exact ⟨hstands, hi⟩
  | cons c gone ih =>
    obtain ⟨hc, hgone⟩ := List.forall_mem_cons.mp hgone
    obtain ⟨hbyte, hnext⟩ := (stands_cons h c (gone ++ left) hc i).mp hstands
    rw [List.length_cons, Nat.add_comm gone.length, ← Nat.add_assoc]
    exact ih hgone (i + 1) (succ_le_size h i _ hbyte) hnext

theorem mayStart_of_stands (cs : List Char) (hcs : ∀ c ∈ cs, isPlain c = true) (hne : cs ≠ [])
    (subject : Subject) (i : Nat) (hstands : Stands h cs i) : mayStart subject h i = true := by
  obtain ⟨c, rest, rfl⟩ := List.exists_cons_of_ne_nil hne
  have hc := hcs c List.mem_cons_self
  obtain ⟨hbyte, -⟩ := (stands_cons h c rest hc i).mp hstands
  cases subject with
  | bytes => rfl
  | text =>
    have hlt := isPlain_lt c hc
    have htail : Utf8.isTail c.toNat.toUInt8 = false := by
      rw [Bool.eq_false_iff]
      intro htail
      have := ((Utf8.isTail_iff _).mp htail).1
      rw [toNat_plain c hc] at this
      omega
    rw [mayStart, hbyte, Option.any_some, htail]
    rfl

variable (p : Program) (cs : List Char) (hp : p.IsChain cs) (hcs : ∀ c ∈ cs, isPlain c = true)

theorem explore_nil (fuel : Nat) (visited : Visited) :
    p.explore h fuel [] visited = (none, visited) := by
  cases fuel <;> rfl

include hp hcs

theorem explore_fails (rest : List Char) (hrest : rest <:+ cs) (fuel i : Nat) (hi : i ≤ h.size)
    (slots : Slots) (visited : Visited) (hvisited : Fruitless h cs visited)
    (hnot : ¬ Stands h rest i) :
    ∃ visited', p.explore h fuel [⟨rest.length, i, slots⟩] visited = (none, visited') ∧
      Fruitless h cs visited' := by
  induction rest generalizing fuel i visited with
  | nil => exact absurd (stands_nil h i) hnot
  | cons c rest ih =>
    have hc := hcs c (hrest.mem List.mem_cons_self)
    cases fuel with
    | zero => exact ⟨visited, rfl, hvisited⟩
    | succ fuel =>
      rw [Program.explore]
      dsimp only
      split
      · exact ⟨visited, explore_nil h p fuel visited, hvisited⟩
      · rw [List.length_cons, step_chain h p cs hp c rest hc hrest]
        have hinsert : Fruitless h cs (visited.insert (place h (c :: rest) i)) := by
          intro rest' i' hrest' hi' hmem
          rw [Std.HashSet.contains_insert, Bool.or_eq_true, beq_iff_eq] at hmem
          rcases hmem with heq | hmem
          · obtain ⟨hlength, rfl⟩ := place_inj h _ _ _ _ hi hi' heq
            rw [← List.suffix_of_suffix_length_le hrest hrest' hlength.le |>.eq_of_length hlength]
            exact hnot
          · exact hvisited rest' i' hrest' hi' hmem
        by_cases hbyte : h[i]? = some c.toNat.toUInt8
        · have hnext : ¬ Stands h rest (i + 1) :=
            fun hstands => hnot ((stands_cons h c rest hc i).mpr ⟨hbyte, hstands⟩)
          rw [if_pos hbyte]
          exact ih ((List.suffix_cons c rest).trans hrest) fuel (i + 1) (succ_le_size h i _ hbyte) _
            hinsert hnext
        · rw [if_neg hbyte]
          exact ⟨_, explore_nil h p fuel _, hinsert⟩

/-- Where the characters stand, the match is found if nothing on the way to it was visited. -/
theorem explore_finds (rest : List Char) (hrest : rest <:+ cs) (fuel i : Nat)
    (hfuel : rest.length < fuel) (slots : Slots) (visited : Visited)
    (hvisited : ∀ gone left, rest = gone ++ left →
      visited.contains (place h left (i + gone.length)) = false)
    (hstands : Stands h rest i) :
    (p.explore h fuel [⟨rest.length, i, slots⟩] visited).1 = some ⟨0, i + rest.length, slots⟩ := by
  induction rest generalizing fuel i visited with
  | nil =>
    obtain ⟨fuel, rfl⟩ := Nat.exists_eq_add_one_of_ne_zero (Nat.ne_of_gt hfuel)
    have hnew := hvisited [] [] rfl
    rw [Program.explore]
    dsimp only
    rw [if_neg (by simpa [place] using hnew)]
    have hstep : p.step h ⟨0, i, slots⟩ = none := by
      simp only [Program.step, hp.accept]
    rw [List.length_nil, hstep]
    rfl
  | cons c rest ih =>
    obtain ⟨fuel, rfl⟩ := Nat.exists_eq_add_one_of_ne_zero (Nat.ne_zero_of_lt hfuel)
    have hc := hcs c (hrest.mem List.mem_cons_self)
    obtain ⟨hbyte, hnext⟩ := (stands_cons h c rest hc i).mp hstands
    have hnew := hvisited [] (c :: rest) rfl
    rw [Program.explore]
    dsimp only
    rw [if_neg (by simpa [place] using hnew), List.length_cons,
      step_chain h p cs hp c rest hc hrest, if_pos hbyte]
    have hgo := succ_le_size h i _ hbyte
    have hplain : ∀ d ∈ rest, isPlain d = true := fun d hd =>
      hcs d (hrest.mem (List.mem_cons_of_mem c hd))
    have hfree : ∀ gone left, rest = gone ++ left →
        (visited.insert (place h (c :: rest) i)).contains
          (place h left (i + 1 + gone.length)) = false := by
      intro gone left hsplit
      have hlength := congrArg List.length hsplit
      rw [List.length_append] at hlength
      have hold := hvisited (c :: gone) left (by rw [hsplit, List.cons_append])
      rw [List.length_cons, Nat.add_comm gone.length, ← Nat.add_assoc] at hold
      rw [Std.HashSet.contains_insert, hold, Bool.or_false, beq_eq_false_iff_ne]
      intro heq
      have hreach := (stands_append h gone left
        (fun d hd => hplain d (hsplit ▸ List.mem_append_left left hd)) (i + 1) hgo
        (hsplit ▸ hnext)).2
      obtain ⟨-, hsame⟩ := place_inj h _ _ _ _ (by omega) hreach heq
      omega
    have hlast := ih ((List.suffix_cons c rest).trans hrest) fuel (i + 1) (by simpa using hfuel) _
      hfree hnext
    have hstop : i + (rest.length + 1) = i + 1 + rest.length := by omega
    rw [hstop]
    exact hlast

theorem findFrom_chain (hne : cs ≠ []) (subject : Subject) (fuel : Nat) (hfuel : cs.length < fuel)
    (count i : Nat) (hcount : count = h.size + 1 - i) (visited : Visited)
    (hvisited : Fruitless h cs visited) :
    p.findFrom subject h fuel count i visited =
      (Regex.findBytes (charsBytes cs) i (h.toList.drop i)).map fun start =>
        ⟨start, start + cs.length, []⟩ := by
  have hbytes : charsBytes cs ≠ [] := fun hnil => hne (charsBytes_eq_nil cs hnil)
  induction count generalizing i visited with
  | zero =>
    have hdrop : h.toList.drop i = [] := List.drop_eq_nil_of_le (by
      rw [Array.length_toList]
      omega)
    rw [hdrop, Regex.findBytes, if_neg (by simpa using hbytes)]
    rfl
  | succ count ih =>
    have hi : i ≤ h.size := by omega
    have hnext : h.toList.drop (i + 1) = (h.toList.drop i).tail := List.tail_drop.symm
    rw [Program.findFrom, hp.start]
    by_cases hstands : Stands h cs i
    · rw [Regex.findBytes_of_front _ hbytes i _ hstands,
        if_pos (mayStart_of_stands h cs hcs hne subject i hstands)]
      -- Nothing on the way to a match was visited, or the match would not be there.
      have hfree : ∀ gone left, cs = gone ++ left →
          visited.contains (place h left (i + gone.length)) = false := by
        intro gone left hsplit
        obtain ⟨hleft, hreach⟩ := stands_append h gone left
          (fun d hd => hcs d (hsplit ▸ List.mem_append_left left hd)) i hi (hsplit ▸ hstands)
        rw [Bool.eq_false_iff]
        intro hmem
        exact hvisited left _ ⟨gone, hsplit.symm⟩ hreach hmem hleft
      have hfound := explore_finds h p cs hp hcs cs (List.suffix_refl cs) fuel i hfuel [] visited
        hfree hstands
      generalize p.explore h fuel [⟨cs.length, i, []⟩] visited = result at hfound ⊢
      obtain ⟨found, visited'⟩ := result
      cases hfound
      rfl
    · rw [Regex.findBytes_of_ahead _ hbytes i _ hstands, ← hnext]
      split
      · obtain ⟨visited', hfailed, hleft⟩ := explore_fails h p cs hp hcs cs (List.suffix_refl cs)
          fuel i hi [] visited hvisited hstands
        rw [hfailed]
        exact ih (i + 1) (by omega) visited' hleft
      · exact ih (i + 1) (by omega) visited hvisited

end

/-- **The program of a plain pattern finds its bytes.** -/
theorem find_chainProgram (cs : List Char) (hne : cs ≠ []) (hcs : ∀ c ∈ cs, isPlain c = true)
    (subject : Subject) (h : Array UInt8) (i : Nat) :
    (chainProgram cs).find subject h i =
      (Regex.findBytes (charsBytes cs) i (h.toList.drop i)).map fun start =>
        ⟨start, start + cs.length, []⟩ := by
  rw [Program.find, edges_chainProgram]
  refine findFrom_chain h _ cs (isChain_chainProgram cs) hcs hne subject _ ?_ _ i rfl _
    (fruitless_empty h cs _)
  have hsteps : cs.length + 1 ≤ (h.size + 1) * (cs.length + 1) :=
    Nat.le_mul_of_pos_left _ (Nat.succ_pos _)
  omega

end Pattern

end PacketReplay
