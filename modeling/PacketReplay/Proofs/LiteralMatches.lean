import Mathlib.Data.List.Infix
import PacketReplay.Proofs.EditTarget

set_option autoImplicit false

namespace PacketReplay

section

variable {α : Type}

/-- A pattern occurs in a gap and a match after it only as that match. -/
def OnlyAtEnd (pattern gap : List α) : Prop :=
  ∀ before after, gap ++ pattern = before ++ pattern ++ after → after = []

/-- The gaps that the leftmost matches of a pattern leave, one after the other. -/
inductive Gaps (pattern : List α) : List (List α) → Prop where
  | last (gap : List α) (h : ¬ pattern <:+: gap) : Gaps pattern [gap]
  | next (gap : List α) (gaps : List (List α)) (h : OnlyAtEnd pattern gap)
    (hs : Gaps pattern gaps) : Gaps pattern (gap :: gaps)

variable (pattern : List α)

theorem Gaps.ne_nil (gaps : List (List α)) (h : Gaps pattern gaps) : gaps ≠ [] := by
  cases h <;> exact List.cons_ne_nil _ _

theorem Gaps.intercalate_next (sep gap : List α) (gaps : List (List α)) (h : Gaps pattern gaps) :
    sep.intercalate (gap :: gaps) = gap ++ (sep ++ sep.intercalate gaps) := by
  rw [List.intercalate_cons_of_ne_nil (h.ne_nil pattern gaps), List.append_assoc]

theorem onlyAtEnd_nil : OnlyAtEnd pattern [] := by
  intro before after h
  have hlength := congrArg List.length h
  simp only [List.nil_append, List.length_append] at hlength
  exact List.eq_nil_of_length_eq_zero (by omega)

theorem OnlyAtEnd.length_le (gap gap' rest rest' : List α) (h : OnlyAtEnd pattern gap')
    (heq : gap ++ (pattern ++ rest) = gap' ++ (pattern ++ rest')) : gap'.length ≤ gap.length := by
  by_contra hlt
  have hstart : gap ++ pattern <+: gap' ++ pattern := by
    have hfirst : gap ++ pattern <+: gap' ++ (pattern ++ rest') := by
      rw [← heq, ← List.append_assoc]
      exact List.prefix_append _ _
    have hsecond : gap' ++ pattern <+: gap' ++ (pattern ++ rest') := by
      rw [← List.append_assoc]
      exact List.prefix_append _ _
    refine List.prefix_of_prefix_length_le hfirst hsecond ?_
    simp only [List.length_append]
    omega
  obtain ⟨after, hafter⟩ := hstart
  have hnil := h gap after hafter.symm
  have hlength := congrArg List.length hafter
  simp only [hnil, List.append_nil, List.length_append] at hlength
  omega

theorem OnlyAtEnd.not_at_start (x : α) (gap rest : List α) (h : OnlyAtEnd pattern (x :: gap)) :
    ¬ pattern <+: x :: gap ++ (pattern ++ rest) := by
  rintro ⟨after, hafter⟩
  have hle := h.length_le pattern [] (x :: gap) after rest hafter
  exact Nat.not_succ_le_zero _ hle

theorem OnlyAtEnd.tail (x : α) (gap : List α) (h : OnlyAtEnd pattern (x :: gap)) :
    OnlyAtEnd pattern gap := by
  intro before after heq
  exact h (x :: before) after (by rw [List.cons_append, heq]; rfl)

theorem OnlyAtEnd.cons (x : α) (gap rest : List α) (h : OnlyAtEnd pattern gap)
    (hx : ¬ pattern <+: x :: gap ++ (pattern ++ rest)) : OnlyAtEnd pattern (x :: gap) := by
  intro before after heq
  cases before with
  | nil =>
    refine absurd ?_ hx
    rw [← List.append_assoc, heq]
    exact ⟨after ++ rest, by simp⟩
  | cons y before =>
    rw [List.cons_append, List.cons_append, List.cons_append, List.cons.injEq] at heq
    exact h before after heq.2

theorem Gaps.exists (hp : pattern ≠ []) (xs : List α) :
    ∃ gaps, Gaps pattern gaps ∧ pattern.intercalate gaps = xs := by
  induction hn : xs.length using Nat.strong_induction_on generalizing xs with
  | h n ih =>
    subst hn
    cases xs with
    | nil =>
      refine ⟨[[]], .last [] ?_, List.intercalate_singleton⟩
      rwa [List.infix_nil]
    | cons x xs =>
      by_cases hstart : pattern <+: x :: xs
      · obtain ⟨rest, hrest⟩ := hstart
        have hshort : rest.length < (x :: xs).length := by
          rw [← hrest, List.length_append]
          have := List.length_pos_iff.mpr hp
          omega
        obtain ⟨gaps, hgaps, heq⟩ := ih _ hshort rest rfl
        refine ⟨[] :: gaps, .next [] gaps (onlyAtEnd_nil pattern) hgaps, ?_⟩
        rw [hgaps.intercalate_next pattern pattern [] gaps, heq, List.nil_append, hrest]
      · obtain ⟨gaps, hgaps, heq⟩ := ih xs.length (by simp) xs rfl
        cases hgaps with
        | last gap h =>
          rw [List.intercalate_singleton] at heq
          subst heq
          refine ⟨[x :: gap], .last _ ?_, List.intercalate_singleton⟩
          rw [List.infix_cons_iff]
          exact not_or.mpr ⟨hstart, h⟩
        | next gap gaps h hs =>
          rw [hs.intercalate_next pattern pattern gap gaps] at heq
          subst heq
          refine ⟨(x :: gap) :: gaps, .next _ gaps (h.cons pattern x gap _ hstart) hs, ?_⟩
          rw [hs.intercalate_next pattern pattern (x :: gap) gaps, List.cons_append]

theorem Gaps.unique (gaps gaps' : List (List α)) (h : Gaps pattern gaps) (h' : Gaps pattern gaps')
    (heq : pattern.intercalate gaps = pattern.intercalate gaps') : gaps = gaps' := by
  induction h generalizing gaps' with
  | last gap hgap =>
    cases h' with
    | last gap' _ => simpa using heq
    | next gap' gaps' _ hs' =>
      rw [hs'.intercalate_next, List.intercalate_singleton] at heq
      exact absurd ⟨gap', _, by rw [heq, List.append_assoc]⟩ hgap
  | next gap gaps hgap hs ih =>
    rw [hs.intercalate_next] at heq
    cases h' with
    | last gap' hgap' =>
      rw [List.intercalate_singleton] at heq
      exact absurd ⟨gap, _, by rw [← heq, List.append_assoc]⟩ hgap'
    | next gap' gaps' hgap' hs' =>
      rw [hs'.intercalate_next] at heq
      have hle := hgap'.length_le pattern gap gap' _ _ heq
      have hge := hgap.length_le pattern gap' gap _ _ heq.symm
      obtain ⟨rfl, hrest⟩ := List.append_inj heq (by omega)
      rw [ih gaps' hs' (List.append_cancel_left hrest)]

end

section

variable {α : Type} [DecidableEq α] (pattern value : List α)

theorem stripFront?_eq_some_iff (xs rest : List α) :
    stripFront? pattern xs = some rest ↔ pattern ++ rest = xs := by
  induction pattern generalizing xs with
  | nil => simp [stripFront?, eq_comm]
  | cons p ps ih =>
    cases xs with
    | nil => simp [stripFront?]
    | cons x xs =>
      by_cases hx : p = x
      · simp [stripFront?, hx, ih]
      · simp [stripFront?, hx]

theorem replaceFrom_skip (p : α) (ps : List α) (skip : Nat) (xs : List α) :
    replaceFrom p ps value skip xs = replaceFrom p ps value 0 (xs.drop skip) := by
  induction skip generalizing xs with
  | zero => rfl
  | succ skip ih =>
    cases xs with
    | nil => rfl
    | cons x xs => exact ih xs

theorem replaceAll_nil : replaceAll pattern value [] = [] := by
  cases pattern <;> rfl

theorem replaceAll_append (hp : pattern ≠ []) (rest : List α) :
    replaceAll pattern value (pattern ++ rest) = value ++ replaceAll pattern value rest := by
  obtain ⟨p, ps, rfl⟩ := List.exists_cons_of_ne_nil hp
  have hfront := (stripFront?_eq_some_iff (p :: ps) (p :: (ps ++ rest)) rest).mpr rfl
  rw [replaceAll, List.cons_append, replaceFrom, hfront]
  change value ++ replaceFrom p ps value ps.length (ps ++ rest) = _
  rw [replaceFrom_skip, List.drop_left]
  rfl

theorem replaceAll_cons (x : α) (xs : List α) (h : ¬ pattern <+: x :: xs) :
    replaceAll pattern value (x :: xs) = x :: replaceAll pattern value xs := by
  cases pattern with
  | nil => exact absurd ⟨x :: xs, rfl⟩ h
  | cons p ps =>
    rw [replaceAll, replaceFrom]
    cases hfront : stripFront? (p :: ps) (x :: xs) with
    | none => rfl
    | some rest => exact absurd ⟨rest, (stripFront?_eq_some_iff _ _ rest).mp hfront⟩ h

theorem replaceAll_of_not_infix (xs : List α) (h : ¬ pattern <:+: xs) :
    replaceAll pattern value xs = xs := by
  induction xs with
  | nil => exact replaceAll_nil pattern value
  | cons x xs ih =>
    rw [List.infix_cons_iff, not_or] at h
    rw [replaceAll_cons pattern value x xs h.1, ih h.2]

theorem OnlyAtEnd.replaceAll_append (hp : pattern ≠ []) (gap rest : List α)
    (h : OnlyAtEnd pattern gap) :
    replaceAll pattern value (gap ++ (pattern ++ rest)) =
      gap ++ (value ++ replaceAll pattern value rest) := by
  induction gap with
  | nil => exact PacketReplay.replaceAll_append pattern value hp rest
  | cons x gap ih =>
    have hx := h.not_at_start pattern x gap rest
    rw [List.cons_append] at hx ⊢
    rw [replaceAll_cons pattern value x _ hx, ih (h.tail pattern x gap), List.cons_append]

/-- Replacing puts the value in the place of every match and leaves the gaps as they are. -/
theorem Gaps.replaceAll_eq (hp : pattern ≠ []) (gaps : List (List α)) (h : Gaps pattern gaps) :
    replaceAll pattern value (pattern.intercalate gaps) = value.intercalate gaps := by
  induction h with
  | last gap h =>
    rw [List.intercalate_singleton, List.intercalate_singleton,
      replaceAll_of_not_infix pattern value gap h]
  | next gap gaps h hs ih =>
    rw [hs.intercalate_next, hs.intercalate_next, h.replaceAll_append pattern value hp gap, ih]

theorem scan?_eq (hp : pattern ≠ []) (n : Nat) (rest out : List α) (hn : rest.length ≤ n) :
    scan? pattern value n rest out = some (out ++ replaceAll pattern value rest) := by
  induction n generalizing rest out with
  | zero =>
    obtain rfl := List.eq_nil_of_length_eq_zero (Nat.le_zero.mp hn)
    rw [scan?, replaceAll_nil, List.append_nil]
  | succ n ih =>
    cases rest with
    | nil => rw [scan?, replaceAll_nil, List.append_nil]
    | cons x xs =>
      rw [scan?]
      split
      · rename_i hstart
        obtain ⟨after, hafter⟩ := hstart
        have hpos := List.length_pos_iff.mpr hp
        have hlength : pattern.length + after.length ≤ n + 1 := by
          rw [← List.length_append, hafter]
          exact hn
        rw [← hafter, List.drop_left, ih after _ (by omega),
          replaceAll_append pattern value hp, List.append_assoc]
      · rename_i hstart
        rw [ih xs _ (Nat.le_of_succ_le_succ hn), replaceAll_cons pattern value x xs hstart,
          List.append_assoc, List.singleton_append]

/-- An empty pattern keeps the loop at the same place. -/
theorem scan?_nil (n : Nat) (rest out : List α) (h : rest ≠ []) :
    scan? [] value n rest out = none := by
  obtain ⟨x, xs, rfl⟩ := List.exists_cons_of_ne_nil h
  induction n generalizing out with
  | zero => rfl
  | succ n ih =>
    rw [scan?, if_pos ⟨x :: xs, rfl⟩]
    exact ih _

end

def charsBytes (cs : List Char) : Bytes :=
  cs.flatMap String.utf8EncodeChar

theorem textBytes_eq (s : String) : textBytes s = charsBytes s.toList := by
  rw [textBytes, String.toUTF8_eq_toByteArray, ← String.utf8Encode_toList, List.utf8Encode,
    List.data_toByteArray]
  rfl

theorem charsBytes_append (cs cs' : List Char) :
    charsBytes (cs ++ cs') = charsBytes cs ++ charsBytes cs' :=
  List.flatMap_append

theorem charsBytes_cons (c : Char) (cs : List Char) :
    charsBytes (c :: cs) = String.utf8EncodeChar c ++ charsBytes cs :=
  List.flatMap_cons

theorem charsBytes_eq_nil (cs : List Char) (h : charsBytes cs = []) : cs = [] := by
  cases cs with
  | nil => rfl
  | cons c cs =>
    rw [charsBytes_cons] at h
    exact absurd (List.append_eq_nil_iff.mp h).1 String.utf8EncodeChar_ne_nil

theorem charsBytes_start (cs cs' : List Char) (rest : Bytes)
    (h : charsBytes cs ++ rest = charsBytes cs') :
    ∃ after, cs' = cs ++ after ∧ rest = charsBytes after := by
  have hbytes : cs.utf8Encode ++ rest.toByteArray = cs'.utf8Encode := by
    rw [List.utf8Encode, List.utf8Encode, ← List.toByteArray_append]
    exact congrArg List.toByteArray h
  obtain ⟨after, rfl⟩ := List.isPrefix_of_utf8Encode_append_eq_utf8Encode _ hbytes
  refine ⟨after, rfl, ?_⟩
  rw [charsBytes_append] at h
  exact List.append_cancel_left h

theorem utf8EncodeChar_head (c : Char) (b : UInt8) (rest : Bytes)
    (h : String.utf8EncodeChar c = b :: rest) : b.IsUTF8FirstByte := by
  have hhead : (String.utf8EncodeChar c)[0]? = some b := by
    rw [h]
    rfl
  obtain ⟨hlt, rfl⟩ := List.getElem?_eq_some_iff.mp hhead
  exact UInt8.isUTF8FirstByte_getElem_utf8EncodeChar.mpr rfl

theorem utf8EncodeChar_tail (c : Char) (a b : UInt8) (before after : Bytes)
    (h : String.utf8EncodeChar c = a :: before ++ b :: after) : ¬ b.IsUTF8FirstByte := by
  have hat : (String.utf8EncodeChar c)[(a :: before).length]? = some b := by
    rw [h, List.getElem?_append_right (Nat.le_refl _), Nat.sub_self]
    rfl
  obtain ⟨hlt, rfl⟩ := List.getElem?_eq_some_iff.mp hat
  exact fun hfirst => Nat.succ_ne_zero _ (UInt8.isUTF8FirstByte_getElem_utf8EncodeChar.mp hfirst)

theorem charsBytes_split (cs : List Char) (c : Char) (before rest : Bytes)
    (h : charsBytes cs = before ++ (String.utf8EncodeChar c ++ rest)) :
    ∃ front back, cs = front ++ back ∧ before = charsBytes front ∧
      String.utf8EncodeChar c ++ rest = charsBytes back := by
  induction cs generalizing before with
  | nil =>
    have hnil := (List.append_eq_nil_iff.mp h.symm).2
    exact absurd (List.append_eq_nil_iff.mp hnil).1 String.utf8EncodeChar_ne_nil
  | cons d cs ih =>
    rw [charsBytes_cons] at h
    rcases List.append_eq_append_iff.mp h with ⟨more, rfl, hmore⟩ | ⟨tail, hd, htail⟩
    · obtain ⟨front, back, rfl, rfl, hback⟩ := ih more hmore
      exact ⟨d :: front, back, rfl, (charsBytes_cons d front).symm, hback⟩
    · cases before with
      | nil => exact ⟨[], d :: cs, rfl, rfl, by rw [charsBytes_cons, h, List.nil_append]⟩
      | cons b before =>
        cases tail with
        | nil =>
          rw [List.append_nil] at hd
          exact ⟨[d], cs, rfl, by rw [← hd, charsBytes, List.flatMap_singleton], htail⟩
        | cons t tail =>
          obtain ⟨x, xs, hx⟩ := List.exists_cons_of_ne_nil (String.utf8EncodeChar_ne_nil (c := c))
          rw [hx, List.cons_append, List.cons_append, List.cons.injEq] at htail
          rw [← htail.1] at hd
          exact absurd (utf8EncodeChar_head c x xs hx) (utf8EncodeChar_tail d b x before tail hd)

/-- A match in a text's bytes starts and ends between characters. -/
theorem charsBytes_between (cs ps : List Char) (hp : ps ≠ []) (before after : Bytes)
    (h : charsBytes cs = before ++ charsBytes ps ++ after) :
    ∃ front back, cs = front ++ ps ++ back ∧ before = charsBytes front ∧
      after = charsBytes back := by
  obtain ⟨c, ps', rfl⟩ := List.exists_cons_of_ne_nil hp
  rw [charsBytes_cons, List.append_assoc, List.append_assoc] at h
  obtain ⟨front, rest, rfl, rfl, hrest⟩ := charsBytes_split cs c before _ h
  rw [← List.append_assoc, ← charsBytes_cons] at hrest
  obtain ⟨back, rfl, rfl⟩ := charsBytes_start (c :: ps') rest after hrest
  exact ⟨front, back, (List.append_assoc _ _ _).symm, rfl, rfl⟩

theorem charsBytes_intercalate (sep : List Char) (gaps : List (List Char)) :
    charsBytes (sep.intercalate gaps) =
      (charsBytes sep).intercalate (gaps.map charsBytes) := by
  induction gaps with
  | nil => rfl
  | cons gap gaps ih =>
    cases gaps with
    | nil => simp
    | cons gap' gaps =>
      rw [List.map_cons, List.map_cons, List.intercalate_cons_cons, List.intercalate_cons_cons,
        charsBytes_append, charsBytes_append, ih, List.map_cons]

theorem Gaps.map_charsBytes (ps : List Char) (hp : ps ≠ []) (gaps : List (List Char))
    (h : Gaps ps gaps) : Gaps (charsBytes ps) (gaps.map charsBytes) := by
  induction h with
  | last gap hgap =>
    refine .last _ ?_
    rintro ⟨before, after, heq⟩
    obtain ⟨front, back, rfl, -, -⟩ := charsBytes_between gap ps hp before after heq.symm
    exact hgap ⟨front, back, rfl⟩
  | next gap gaps hgap hs ih =>
    refine .next _ _ ?_ ih
    intro before after heq
    rw [← charsBytes_append] at heq
    obtain ⟨front, back, hsplit, -, rfl⟩ := charsBytes_between _ ps hp before after heq
    rw [hgap front back hsplit]
    rfl

theorem replaceAll_charsBytes (ps : List Char) (hp : ps ≠ []) (vs cs : List Char) :
    replaceAll (charsBytes ps) (charsBytes vs) (charsBytes cs) =
      charsBytes (replaceAll ps vs cs) := by
  obtain ⟨gaps, hgaps, rfl⟩ := Gaps.exists ps hp cs
  have hbytes : charsBytes ps ≠ [] := fun h => hp (charsBytes_eq_nil ps h)
  rw [hgaps.replaceAll_eq ps vs hp, charsBytes_intercalate, charsBytes_intercalate]
  exact (hgaps.map_charsBytes ps hp gaps).replaceAll_eq _ _ hbytes

structure Rule.Replaces (r : Rule) (target : Target) (pattern value : String) : Prop where
  operation : Operation.parse r.operation = some .replace
  target : Target.parse r.target = some target
  pattern : r.pattern = some pattern
  value : r.value = some value

theorem Rule.needPattern_eq_ok (r : Rule) (op : Operation) (pattern : String)
    (h : r.needPattern op = .ok pattern) : pattern ≠ "" := by
  unfold needPattern at h
  split at h
  · split at h
    · cases h
    · rename_i hne
      cases h
      exact hne
  · cases h

section

variable (r : Rule) (pattern value : String) (hp : pattern ≠ "")

include hp

theorem Rule.Replaces.compile_body (h : r.Replaces .body pattern value) :
    r.compile = .ok (.replaceInBody (textBytes pattern) (textBytes value)) := by
  rw [Rule.compile, h.operation, h.target]
  simp only [Rule.bodyEdit, Rule.needPattern, Rule.needValue, h.pattern, h.value, if_neg hp]
  rfl

theorem Rule.Replaces.compile_url (h : r.Replaces .url pattern value) :
    r.compile = .ok (.replaceInUrl pattern value) := by
  rw [Rule.compile, h.operation, h.target]
  simp only [Rule.urlEdit, Rule.needPattern, Rule.needValue, h.pattern, h.value, if_neg hp]
  rfl

end

theorem textBytes_ne_nil (s : String) (h : s ≠ "") : textBytes s ≠ [] := by
  rw [textBytes_eq]
  exact fun hnil => h (String.toList_eq_nil_iff.mp (charsBytes_eq_nil _ hnil))

theorem Rule.pattern_ne_nil (r : Rule) (pattern value : Bytes)
    (h : r.compile = .ok (.replaceInBody pattern value)) : pattern ≠ [] := by
  have ht := r.parse_target_of_compile _ h
  rw [compile, ht] at h
  split at h
  · cases h
  · rename_i op _
    change r.bodyEdit op = _ at h
    cases op with
    | replace =>
      obtain ⟨text, htext, h⟩ := bind_eq_ok h
      obtain ⟨_, -, h⟩ := bind_eq_ok h
      cases h
      exact textBytes_ne_nil text (r.needPattern_eq_ok _ text htext)
    | set | add =>
      obtain ⟨_, -, h⟩ := bind_eq_ok h
      cases h
    | remove => cases h
    | regexReplace =>
      obtain ⟨_, -, h⟩ := bind_eq_ok h
      obtain ⟨_, -, h⟩ := bind_eq_ok h
      cases h

theorem replaceAll_textBytes (s pattern value : String) (hp : pattern ≠ "") :
    replaceAll (textBytes pattern) (textBytes value) (textBytes s) =
      textBytes (replaceText pattern value s) := by
  have hne : pattern.toList ≠ [] := fun h => hp (String.toList_eq_nil_iff.mp h)
  rw [textBytes_eq, textBytes_eq, textBytes_eq, textBytes_eq, replaceAll_charsBytes _ hne,
    replaceText, String.toList_ofList]

theorem textBytes_between (s pattern : String) (hp : pattern ≠ "") (before after : Bytes)
    (h : textBytes s = before ++ textBytes pattern ++ after) :
    ∃ front back, s = front ++ pattern ++ back ∧ before = textBytes front ∧
      after = textBytes back := by
  rw [textBytes_eq, textBytes_eq] at h
  obtain ⟨front, back, hs, rfl, rfl⟩ := charsBytes_between s.toList pattern.toList
    (fun h => hp (String.toList_eq_nil_iff.mp h)) before after h
  refine ⟨.ofList front, .ofList back, ?_, ?_, ?_⟩
  · rw [← String.toList_inj, hs]
    simp
  · rw [textBytes_eq, String.toList_ofList]
  · rw [textBytes_eq, String.toList_ofList]

/-- **Literal replacement.** A text falls in one way into the leftmost matches of a pattern and the
gaps between them, and replacing writes the value for every match and leaves the gaps; the loop that
does it ends after a round for each byte at most. With an empty pattern it would never end, and no
rule for a body has one. In the bytes of a text a match starts and ends between characters, and a
rule that replaces in a body makes of a text's bytes the bytes of what the same rule makes of the
text as a URL. -/
theorem replaces_leftmost_matches :
    (∀ text pattern value : Bytes, pattern ≠ [] →
      (∃! gaps, Gaps pattern gaps ∧ pattern.intercalate gaps = text) ∧
      (∀ gaps, Gaps pattern gaps → pattern.intercalate gaps = text →
        replaceAll pattern value text = value.intercalate gaps) ∧
      ∀ n, text.length ≤ n →
        scan? pattern value n text [] = some (replaceAll pattern value text)) ∧
    (∀ (text value : Bytes) n, text ≠ [] → scan? [] value n text [] = none) ∧
    (∀ rs es pattern value, compileFrom 0 rs = .ok es → Edit.replaceInBody pattern value ∈ es →
      pattern ≠ []) ∧
    ∀ s pattern value : String, pattern ≠ "" →
      (∀ before after, textBytes s = before ++ textBytes pattern ++ after →
        ∃ front back, s = front ++ pattern ++ back ∧ before = textBytes front ∧
          after = textBytes back) ∧
      ∀ (inBody inUrl : Rule) (p q : Record) (policy policy' : Policy),
        inBody.Replaces .body pattern value → inUrl.Replaces .url pattern value →
        p.body = some (textBytes s) → q.url = s →
        ∃ p' q', applyRules p [inBody] policy = .ok p' ∧ applyRules q [inUrl] policy' = .ok q' ∧
          p'.body = some (textBytes q'.url) := by
  refine ⟨?_, ?_, ?_, ?_⟩
  · intro text pattern value hp
    obtain ⟨gaps, hgaps, rfl⟩ := Gaps.exists pattern hp text
    refine ⟨⟨gaps, ⟨hgaps, rfl⟩, ?_⟩, ?_, ?_⟩
    · rintro gaps' ⟨hgaps', heq⟩
      exact hgaps'.unique pattern gaps' gaps hgaps heq
    · rintro gaps' hgaps' heq
      rw [← heq, hgaps'.replaceAll_eq pattern value hp]
    · intro n hn
      rw [scan?_eq pattern value hp n _ [] hn, List.nil_append]
  · exact fun text value n h => scan?_nil value n text [] h
  · intro rs es pattern value hes hmem
    obtain ⟨r, -, hr⟩ := compileFrom_mem 0 rs es hes _ hmem
    exact r.pattern_ne_nil pattern value hr
  · rintro s pattern value hp
    refine ⟨textBytes_between s pattern hp, ?_⟩
    rintro inBody inUrl p q policy policy' hbody hurl hsource rfl
    refine ⟨_, _, applyRules_singleton p policy inBody _ (hbody.compile_body _ _ _ hp),
      applyRules_singleton q policy' inUrl _ (hurl.compile_url _ _ _ hp), ?_⟩
    change p.body.map _ = some (textBytes (replaceText pattern value q.url))
    rw [hsource, Option.map_some, replaceAll_textBytes q.url pattern value hp]

theorem replaces_leftmost_matches_overlapping :
    let inBody : Rule := ⟨"body", "replace", some "ne", some "é"⟩
    let inUrl : Rule := ⟨"URL", "replace", some "ne", some "é"⟩
    let p := { Record.repeating with url := "/née", body := some (textBytes "/née") }
    (∃! gaps, Gaps [97, 97] gaps ∧ [97, 97].intercalate gaps = ([97, 97, 97] : Bytes)) ∧
      replaceAll [97, 97] [97, 97, 98] ([97, 97, 97] : Bytes) = [97, 97, 98, 97] ∧
      scan? [97, 97] [97, 97, 98] 3 ([97, 97, 97] : Bytes) [] = some [97, 97, 98, 97] ∧
      scan? [] [98] 9 ([97] : Bytes) [] = none ∧
      textBytes "é" ≠ [] ∧
      (∃ front back, "/née" = front ++ "é" ++ back ∧ [47, 110] = textBytes front ∧
        [101] = textBytes back) ∧
      ∃ p' q', applyRules p [inBody] .replaceExisting = .ok p' ∧
        applyRules p [inUrl] .replaceExisting = .ok q' ∧ p'.body = some (textBytes q'.url) := by
  intro inBody inUrl p
  obtain ⟨hmatches, hnever, hrules, htexts⟩ := replaces_leftmost_matches
  have hbody : inBody.Replaces .body "é" "ne" := ⟨by decide +kernel, by decide +kernel, rfl, rfl⟩
  have hurl : inUrl.Replaces .url "é" "ne" := ⟨by decide +kernel, by decide +kernel, rfl, rfl⟩
  have hcompile := hbody.compile_body inBody "é" "ne" (by decide)
  have hlist : compileFrom 0 [inBody] =
      .ok [.replaceInBody (textBytes "é") (textBytes "ne")] := by
    rw [compileFrom_cons_ok 0 [] inBody _ hcompile]
    rfl
  have hgaps : Gaps [97, 97] [([] : Bytes), [97]] :=
    .next [] _ (onlyAtEnd_nil _) (.last [97] (by decide))
  obtain ⟨hunique, hvalue, hloop⟩ :=
    hmatches [97, 97, 97] [97, 97] [97, 97, 98] (List.cons_ne_nil _ _)
  have hresult := hvalue _ hgaps rfl
  obtain ⟨hbetween, halike⟩ := htexts "/née" "é" "ne" (by decide)
  refine ⟨hunique, hresult, (hloop 3 (by decide)).trans (congrArg some hresult),
    hnever [97] [98] 9 (List.cons_ne_nil _ _),
    hrules _ _ _ _ hlist List.mem_cons_self, hbetween _ _ (by decide +kernel),
    halike inBody inUrl p p _ _ hbody hurl rfl rfl⟩

end PacketReplay
