import Mathlib.Tactic.IntervalCases
import Mathlib.Tactic.SplitIfs
import PacketReplay.Json.Printer
import PacketReplay.Json.Reader

set_option autoImplicit false

namespace PacketReplay.Json

/-- What can follow a number without being read as part of it. -/
def EndsNumber : List Char → Prop
  | [] => True
  | c :: _ => digit? c = none ∧ c ≠ '.' ∧ c ≠ 'e' ∧ c ≠ 'E'

theorem digit?_of_isDigit (c : Char) (h : c.isDigit = true) : digit? c = some (c.toNat - 48) := by
  have hc : '0' ≤ c ∧ c ≤ '9' := by
    simp only [Char.isDigit, Bool.and_eq_true, decide_eq_true_eq] at h
    exact h
  simp [digit?, hc]

theorem spanDigits_end (rest : List Char) (h : EndsNumber rest) : spanDigits rest = ([], rest) := by
  cases rest with
  | nil => rfl
  | cons c cs => simp [spanDigits, h.1]

theorem spanDigits_append (cs rest : List Char) (hc : ∀ c ∈ cs, c.isDigit = true)
    (h : EndsNumber rest) :
    spanDigits (cs ++ rest) = (cs.map fun c => c.toNat - 48, rest) := by
  induction cs with
  | nil => exact spanDigits_end rest h
  | cons c cs ih =>
    have hd := digit?_of_isDigit c (hc c (by simp))
    have ht := ih fun d hd => hc d (by simp [hd])
    simp [spanDigits, hd, ht]

theorem le_ofDigitChars (cs : List Char) (n : Nat) : n ≤ Nat.ofDigitChars 10 cs n := by
  induction cs generalizing n with
  | nil => simp
  | cons c cs ih =>
    rw [Nat.ofDigitChars_cons]
    exact Nat.le_trans (by omega) (ih _)

theorem accumulate_eq (cs : List Char) (n : Nat)
    (h : Nat.ofDigitChars 10 cs n < 0x10000000000000000) :
    accumulate n (cs.map fun c => c.toNat - 48) = (Nat.ofDigitChars 10 cs n, []) := by
  induction cs generalizing n with
  | nil => simp [accumulate]
  | cons c cs ih =>
    rw [Nat.ofDigitChars_cons] at h ⊢
    have hn := le_ofDigitChars cs (10 * n + (c.toNat - '0'.toNat))
    have he : n * 10 + (c.toNat - 48) = 10 * n + (c.toNat - '0'.toNat) := by
      change n * 10 + (c.toNat - 48) = 10 * n + (c.toNat - 48)
      omega
    have hf : n * 10 + (c.toNat - 48) < 0x10000000000000000 := by omega
    simp only [List.map_cons, accumulate, hf, ite_true]
    rw [he]
    exact ih _ h

theorem toDigits_head (n : Nat) (hn : 0 < n) :
    ∃ c cs, Nat.toDigits 10 n = c :: cs ∧ c ≠ '0' := by
  induction n using Nat.strongRecOn with
  | _ n ih =>
    rw [Nat.toDigits_eq_if (by decide)]
    split
    · exact ⟨_, [], rfl, by simpa using Nat.ne_of_gt hn⟩
    · obtain ⟨c, cs, he, hc⟩ := ih (n / 10) (by omega) (by omega)
      exact ⟨c, cs ++ [(n % 10).digitChar], by rw [he, List.cons_append], hc⟩

/-- The digits of a number, as the reader sees them, never start with a zero before others. -/
theorem digitValues_ne (n d : Nat) (ds : List Nat) :
    (Nat.toDigits 10 n).map (fun c => c.toNat - 48) ≠ 0 :: d :: ds := by
  rcases Nat.eq_zero_or_pos n with rfl | hn
  · simp
  · obtain ⟨c, cs, he, hc⟩ := toDigits_head n hn
    have hd : c.isDigit = true :=
      Nat.isDigit_of_mem_toDigits (b := 10) (n := n) (by decide) (by decide) (by simp [he])
    have hlow : '0'.toNat ≤ c.toNat := (Char.isDigit_iff_toNat.mp hd).1
    change 48 ≤ c.toNat at hlow
    rw [he, List.map_cons]
    intro h
    apply hc
    apply Char.toNat_inj.mp
    change c.toNat = 48
    have := (List.cons.inj h).1
    omega

theorem readNumber_digits (negative : Bool) (n : Nat) (hn : n < 0x10000000000000000)
    (rest : List Char) (h : EndsNumber rest) :
    readNumber negative (Nat.toDigits 10 n ++ rest) =
      if negative = false then some (.int n, rest)
      else if n ≠ 0 ∧ n ≤ 0x8000000000000000 then some (.int (-(n : Int)), rest)
      else some (ofFloat (Binary64.ofRatio true n 1), rest) := by
  have hs := spanDigits_append (Nat.toDigits 10 n) rest
    (fun c hc => Nat.isDigit_of_mem_toDigits (by decide) (by decide) hc) h
  have ha := accumulate_eq (Nat.toDigits 10 n) 0 (by simpa using hn)
  rw [Nat.ofDigitChars_ten_toDigits] at ha
  have hz := digitValues_ne n
  have hne : (Nat.toDigits 10 n).map (fun c => c.toNat - 48) ≠ [] := by simp
  generalize (Nat.toDigits 10 n).map (fun c => c.toNat - 48) = ds at hs ha hz hne
  unfold readNumber
  rw [hs]
  split
  · rename_i he
    exact absurd (congrArg Prod.fst he) hne
  · rename_i d ds' r he
    exact absurd (congrArg Prod.fst he) (hz d ds')
  · rename_i he
    obtain ⟨rfl, rfl⟩ := Prod.mk.inj he
    simp only [ha]
    cases rest with
    | nil => cases negative <;> simp
    | cons c cs =>
      obtain ⟨-, hp, he, hE⟩ := h
      split <;> simp_all

theorem endsNumber_cons (c : Char) (cs : List Char) (h : c = ',' ∨ c = ']' ∨ c = '\x7d') :
    EndsNumber (c :: cs) := by
  rcases h with rfl | rfl | rfl <;> exact ⟨by decide, by decide, by decide, by decide⟩

theorem hexDigit?_hexDigit (n : Nat) (hn : n < 16) : hexDigit? (hexDigit n) = some n := by
  interval_cases n <;> decide

theorem hexFour?_control (n : Nat) (hn : n < 0x20) (rest : List Char) :
    hexFour? ('0' :: '0' :: hexDigit (n / 16) :: hexDigit (n % 16) :: rest) = some (n, rest) := by
  have hh := hexDigit?_hexDigit (n / 16) (by omega)
  have hl := hexDigit?_hexDigit (n % 16) (by omega)
  have h0 : hexDigit? '0' = some 0 := by decide
  simp only [hexFour?, hh, hl, h0, Option.bind_eq_bind, Option.bind_some]
  congr
  omega

theorem readString_escapeChar (fuel : Nat) (c : Char) (rest acc : List Char) :
    readString (fuel + 1) (escapeChar c ++ rest) acc true = readString fuel rest (c :: acc) true := by
  unfold escapeChar
  split_ifs with hq hb hc h8 hf hn hr ht
  · subst hq; rfl
  · subst hb; rfl
  · subst h8; rfl
  · subst hf; rfl
  · subst hn; rfl
  · subst hr; rfl
  · subst ht; rfl
  · have hx := hexFour?_control c.toNat hc rest
    have hs : ¬(0xD800 ≤ c.toNat ∧ c.toNat ≤ 0xDBFF) := by omega
    have hl : ¬(0xDC00 ≤ c.toNat ∧ c.toNat ≤ 0xDFFF) := by omega
    simp [readString, hx, hs, hl]
  · rw [readString.eq_def]
    simp only [List.singleton_append]
    split <;> simp_all

/-- The reader's budget of one step per character is enough for any written string. -/
theorem readString_flatMap (cs : List Char) (fuel : Nat) (rest acc : List Char)
    (hf : cs.length < fuel) :
    readString fuel (cs.flatMap escapeChar ++ '\x22' :: rest) acc true =
      some (some (String.ofList (acc.reverse ++ cs)), rest) := by
  induction cs generalizing fuel acc with
  | nil =>
    cases fuel with
    | zero => simp at hf
    | succ fuel => simp [readString]
  | cons c cs ih =>
    cases fuel with
    | zero => simp at hf
    | succ fuel =>
      have ht := ih fuel (c :: acc) (by simpa using hf)
      rw [List.flatMap_cons, List.append_assoc, readString_escapeChar, ht]
      simp

theorem length_le_flatMap_escapeChar (cs : List Char) :
    cs.length ≤ (cs.flatMap escapeChar).length := by
  induction cs with
  | nil => simp
  | cons c cs ih =>
    have hc : 1 ≤ (escapeChar c).length := by
      unfold escapeChar
      split_ifs <;> simp
    simp only [List.flatMap_cons, List.length_append, List.length_cons]
    omega

theorem readString_write (s : String) (rest : List Char) :
    readString ((s.toList.flatMap escapeChar ++ '\x22' :: rest).length + 1)
      (s.toList.flatMap escapeChar ++ '\x22' :: rest) [] true = some (some s, rest) := by
  have hl := length_le_flatMap_escapeChar s.toList
  rw [readString_flatMap s.toList]
  · simp
  · simp only [List.length_append, List.length_cons]
    omega

mutual

/-- Values that read back inside `depth` containers. -/
def Legible (depth : Nat) : Json → Prop
  | .int n => -0x8000000000000000 ≤ n ∧ n < 0x10000000000000000
  | .arr items => depth < maxDepth ∧ LegibleItems (depth + 1) items
  | .obj members => depth < maxDepth ∧ LegibleMembers (depth + 1) members
  | .float _ => False
  | .unreadable => False
  | _ => True

def LegibleItems (depth : Nat) : List Json → Prop
  | [] => True
  | v :: vs => Legible depth v ∧ LegibleItems depth vs

def LegibleMembers (depth : Nat) : List (String × Json) → Prop
  | [] => True
  | (_, v) :: ms => Legible depth v ∧ LegibleMembers depth ms

end

theorem legibleItems_iff (depth : Nat) (items : List Json) :
    LegibleItems depth items ↔ ∀ v ∈ items, Legible depth v := by
  induction items with
  | nil => simp [LegibleItems]
  | cons v vs ih => simp [LegibleItems, ih]

theorem legibleMembers_iff (depth : Nat) (members : List (String × Json)) :
    LegibleMembers depth members ↔ ∀ m ∈ members, Legible depth m.2 := by
  induction members with
  | nil => simp [LegibleMembers]
  | cons m ms ih => simp [LegibleMembers, ih]

theorem legibleMembers_append (depth : Nat) (ms ns : List (String × Json)) :
    LegibleMembers depth (ms ++ ns) ↔ LegibleMembers depth ms ∧ LegibleMembers depth ns := by
  simp only [legibleMembers_iff, List.mem_append, or_imp, forall_and]

theorem isSpace_of_isDigit (c : Char) (h : c.isDigit = true) : isSpace c = false := by
  obtain ⟨hl, -⟩ := Char.isDigit_iff_toNat.mp h
  change 48 ≤ c.toNat at hl
  simp only [isSpace, Bool.or_eq_false_iff, beq_eq_false_iff_ne]
  refine ⟨⟨⟨?_, ?_⟩, ?_⟩, ?_⟩ <;> (rintro rfl; revert hl; decide)

theorem skipSpace_cons (c : Char) (cs : List Char) (h : isSpace c = false) :
    skipSpace (c :: cs) = c :: cs := by
  simp [skipSpace, h]

theorem readValue_digit (fuel depth : Nat) (c : Char) (cs : List Char) (h : c.isDigit = true) :
    readValue (fuel + 1) depth (c :: cs) = readNumber false (c :: cs) := by
  rw [readValue.eq_def]
  simp only [skipSpace_cons c cs (isSpace_of_isDigit c h)]
  split <;> simp_all [Char.isDigit]

theorem write_int (n : Int) : write (.int n) =
    if 0 ≤ n then Nat.toDigits 10 n.toNat else '-' :: Nat.toDigits 10 (-n).toNat := by
  change (toString n).toList = _
  rw [Int.toString_eq_repr, Int.repr_eq_if]
  split_ifs with h
  · exact Nat.toList_repr
  · rw [String.toList_append, Nat.toList_repr]
    rfl

theorem readValue_int (fuel depth : Nat) (n : Int) (hl : -0x8000000000000000 ≤ n)
    (hh : n < 0x10000000000000000) (rest : List Char) (h : EndsNumber rest) :
    readValue (fuel + 1) depth (write (.int n) ++ rest) = some (.int n, rest) := by
  rw [write_int]
  split_ifs with hn
  · have hr := readNumber_digits false n.toNat (by omega) rest h
    rw [if_pos rfl, Int.toNat_of_nonneg hn] at hr
    have hd : ∀ c ∈ Nat.toDigits 10 n.toNat, c.isDigit = true := fun c hc =>
      Nat.isDigit_of_mem_toDigits (by decide) (by decide) hc
    have hne : Nat.toDigits 10 n.toNat ≠ [] := Nat.toDigits_ne_nil
    generalize Nat.toDigits 10 n.toNat = ds at hr hd hne
    cases ds with
    | nil => exact absurd rfl hne
    | cons c cs =>
      rw [List.cons_append] at hr ⊢
      rw [readValue_digit fuel depth c _ (hd c (by simp))]
      exact hr
  · have hr := readNumber_digits true (-n).toNat (by omega) rest h
    rw [if_neg (by decide), if_pos ⟨by omega, by omega⟩] at hr
    have he : -((-n).toNat : Int) = n := by omega
    rw [he] at hr
    rw [List.cons_append, readValue.eq_def]
    exact hr

theorem readValue_str (fuel depth : Nat) (s : String) (rest : List Char) :
    readValue (fuel + 1) depth (write (.str s) ++ rest) = some (.str s, rest) := by
  change readValue (fuel + 1) depth ('\x22' :: (s.toList.flatMap escapeChar ++ ['\x22'] ++ rest)) = _
  rw [List.append_assoc, List.singleton_append, readValue.eq_def]
  simp only [skipSpace_cons '\x22' _ rfl]
  rw [readString_write]
  rfl

/-- The blanks between the tokens of a text. -/
structure Layout where
  /-- Before an item, a member or the end of a container with something in it, by the level. -/
  gap : Nat → List Char
  /-- Before the value of a member. -/
  space : List Char
  gap_blank : ∀ level, ∀ c ∈ gap level, isSpace c = true
  space_blank : ∀ c ∈ space, isSpace c = true

namespace Layout

def compact : Layout :=
  ⟨fun _ => [], [], by simp, by simp⟩

def pretty : Layout where
  gap := newLine
  space := [' ']
  gap_blank := by
    intro level c hc
    rcases List.mem_cons.mp hc with rfl | hc
    · rfl
    · rw [List.eq_of_mem_replicate hc]
      rfl
  space_blank := by simp [isSpace]

variable (l : Layout)

mutual

def text (level : Nat) : Json → List Char
  | .arr [] => ['[', ']']
  | .arr (v :: vs) => '[' :: (l.gap (level + 1) ++ (text (level + 1) v ++ itemsText level vs))
  | .obj [] => ['\x7b', '\x7d']
  | .obj ((k, v) :: ms) =>
    '\x7b' :: (l.gap (level + 1) ++ (writeString k ++ ':' :: (l.space ++
      (text (level + 1) v ++ membersText level ms))))
  | v => writeLeaf v

def itemsText (level : Nat) : List Json → List Char
  | [] => l.gap level ++ [']']
  | v :: vs => ',' :: (l.gap (level + 1) ++ (text (level + 1) v ++ itemsText level vs))

def membersText (level : Nat) : List (String × Json) → List Char
  | [] => l.gap level ++ ['\x7d']
  | (k, v) :: ms =>
    ',' :: (l.gap (level + 1) ++ (writeString k ++ ':' :: (l.space ++
      (text (level + 1) v ++ membersText level ms))))

end

end Layout

mutual

theorem write_eq (v : Json) (level : Nat) : write v = Layout.compact.text level v := by
  cases v with
  | arr items =>
    cases items with
    | nil => rfl
    | cons v vs =>
      rw [write, Layout.text, write_eq v (level + 1), writeItems_eq vs level]
      rfl
  | obj members =>
    cases members with
    | nil => rfl
    | cons m ms =>
      rw [write, Layout.text, write_eq m.2 (level + 1), writeMembers_eq ms level]
      rfl
  | _ => rfl

theorem writeItems_eq (vs : List Json) (level : Nat) :
    writeItems vs = Layout.compact.itemsText level vs := by
  cases vs with
  | nil => rfl
  | cons v vs =>
    rw [writeItems, Layout.itemsText, write_eq v (level + 1), writeItems_eq vs level]
    rfl

theorem writeMembers_eq (ms : List (String × Json)) (level : Nat) :
    writeMembers ms = Layout.compact.membersText level ms := by
  cases ms with
  | nil => rfl
  | cons m ms =>
    rw [writeMembers, Layout.membersText, write_eq m.2 (level + 1), writeMembers_eq ms level]
    rfl

end

mutual

theorem writePretty_eq (v : Json) (level : Nat) :
    writePretty level v = Layout.pretty.text level v := by
  cases v with
  | arr items =>
    cases items with
    | nil => rfl
    | cons v vs =>
      rw [writePretty, Layout.text, writePretty_eq v (level + 1), writePrettyItems_eq vs level]
      rfl
  | obj members =>
    cases members with
    | nil => rfl
    | cons m ms =>
      rw [writePretty, Layout.text, writePretty_eq m.2 (level + 1), writePrettyMembers_eq ms level]
      rfl
  | _ => rfl

theorem writePrettyItems_eq (vs : List Json) (level : Nat) :
    writePrettyItems level vs = Layout.pretty.itemsText level vs := by
  cases vs with
  | nil => rfl
  | cons v vs =>
    rw [writePrettyItems, Layout.itemsText, writePretty_eq v (level + 1),
      writePrettyItems_eq vs level]
    rfl

theorem writePrettyMembers_eq (ms : List (String × Json)) (level : Nat) :
    writePrettyMembers level ms = Layout.pretty.membersText level ms := by
  cases ms with
  | nil => rfl
  | cons m ms =>
    rw [writePrettyMembers, Layout.membersText, writePretty_eq m.2 (level + 1),
      writePrettyMembers_eq ms level]
    rfl

end

theorem skipSpace_append (g cs : List Char) (hg : ∀ c ∈ g, isSpace c = true) :
    skipSpace (g ++ cs) = skipSpace cs :=
  List.dropWhile_append_of_pos hg

theorem readValue_append (fuel depth : Nat) (g cs : List Char) (hg : ∀ c ∈ g, isSpace c = true) :
    readValue fuel depth (g ++ cs) = readValue fuel depth cs := by
  cases fuel with
  | zero => rfl
  | succ fuel => rw [readValue.eq_def, readValue.eq_def]; simp only [skipSpace_append g cs hg]

theorem endsNumber_append (g cs : List Char) (hg : ∀ c ∈ g, isSpace c = true)
    (h : EndsNumber cs) : EndsNumber (g ++ cs) := by
  cases g with
  | nil => exact h
  | cons c g =>
    have hc : isSpace c = true := hg c (by simp)
    simp only [isSpace, Bool.or_eq_true, beq_iff_eq] at hc
    rcases hc with ((rfl | rfl) | rfl) | rfl <;>
      exact ⟨by decide, by decide, by decide, by decide⟩

theorem writeString_append (k : String) (rest : List Char) :
    writeString k ++ rest = '\x22' :: (k.toList.flatMap escapeChar ++ '\x22' :: rest) := by
  simp [writeString]

namespace Layout

variable (l : Layout)

/-- What a value's text starts with is neither a blank nor the end of a container. -/
theorem text_head (v : Json) (level depth : Nat) (h : Legible depth v) :
    ∃ c cs, l.text level v = c :: cs ∧ isSpace c = false ∧ c ≠ ']' ∧ c ≠ '\x7d' := by
  cases v with
  | null => exact ⟨'n', _, rfl, by decide⟩
  | bool b => cases b <;> exact ⟨_, _, rfl, by decide⟩
  | int n =>
    have hint : l.text level (.int n) = write (.int n) := rfl
    rw [hint, write_int]
    split_ifs with hn
    · have hd : ∀ c ∈ Nat.toDigits 10 n.toNat, c.isDigit = true := fun c hc =>
        Nat.isDigit_of_mem_toDigits (by decide) (by decide) hc
      cases he : Nat.toDigits 10 n.toNat with
      | nil => exact absurd he Nat.toDigits_ne_nil
      | cons c cs =>
        have hc := hd c (by simp [he])
        refine ⟨c, cs, rfl, isSpace_of_isDigit c hc, ?_, ?_⟩ <;> (rintro rfl; revert hc; decide)
    · exact ⟨'-', _, rfl, by decide⟩
  | float x => exact h.elim
  | str s => exact ⟨'\x22', _, rfl, by decide⟩
  | arr items => cases items <;> exact ⟨'[', _, rfl, by decide⟩
  | obj members =>
    cases members with
    | nil => exact ⟨'\x7b', _, rfl, by decide⟩
    | cons m ms => exact ⟨'\x7b', _, rfl, by decide⟩
  | unreadable => exact h.elim

theorem skipSpace_text (v : Json) (level depth : Nat) (h : Legible depth v) (rest : List Char) :
    skipSpace (l.text level v ++ rest) = l.text level v ++ rest := by
  obtain ⟨c, cs, he, hs, -⟩ := l.text_head v level depth h
  rw [he, List.cons_append, skipSpace_cons c _ hs]

theorem endsNumber_itemsText (vs : List Json) (level : Nat) (rest : List Char) :
    EndsNumber (l.itemsText level vs ++ rest) := by
  cases vs with
  | nil =>
    rw [itemsText, List.append_assoc]
    exact endsNumber_append _ _ (l.gap_blank level) (endsNumber_cons ']' rest (by decide))
  | cons v vs => exact endsNumber_cons ',' _ (by decide)

theorem endsNumber_membersText (ms : List (String × Json)) (level : Nat) (rest : List Char) :
    EndsNumber (l.membersText level ms ++ rest) := by
  cases ms with
  | nil =>
    rw [membersText, List.append_assoc]
    exact endsNumber_append _ _ (l.gap_blank level) (endsNumber_cons '\x7d' rest (by decide))
  | cons m ms => exact endsNumber_cons ',' _ (by decide)

theorem length_itemsText_pos (vs : List Json) (level : Nat) : 0 < (l.itemsText level vs).length := by
  cases vs <;> simp [itemsText]

theorem length_membersText_pos (ms : List (String × Json)) (level : Nat) :
    0 < (l.membersText level ms).length := by
  cases ms with
  | nil => simp [membersText]
  | cons m ms => simp [membersText]

mutual

/-- One step of the reader's budget for each character of the value is enough. -/
theorem readValue_text (v : Json) (level depth fuel : Nat) (rest : List Char) (hv : Legible depth v)
    (hf : (l.text level v).length ≤ fuel) (hr : EndsNumber rest) :
    readValue fuel depth (l.text level v ++ rest) = some (v, rest) := by
  cases fuel with
  | zero =>
    obtain ⟨c, cs, he, -⟩ := l.text_head v level depth hv
    simp [he] at hf
  | succ fuel =>
    cases v with
    | null => rfl
    | bool b => cases b <;> rfl
    | int n => exact readValue_int fuel depth n hv.1 hv.2 rest hr
    | float x => exact hv.elim
    | str s => exact readValue_str fuel depth s rest
    | unreadable => exact hv.elim
    | arr items =>
      obtain ⟨hd, hi⟩ := hv
      cases items with
      | nil => simp [text, readValue, skipSpace_cons, isSpace, hd]
      | cons v vs =>
        simp only [text, List.length_cons, List.length_append] at hf
        have ht := readItems_text v vs level (depth + 1) fuel rest hi.1 hi.2 (by
          rw [List.length_append]
          omega)
        have hs := l.skipSpace_text v (level + 1) (depth + 1) hi.1 (l.itemsText level vs ++ rest)
        obtain ⟨c, cs, he, -, hc, -⟩ := l.text_head v (level + 1) (depth + 1) hi.1
        have hw : l.text level (.arr (v :: vs)) ++ rest = '[' :: (l.gap (level + 1) ++
            (l.text (level + 1) v ++ (l.itemsText level vs ++ rest))) := by
          simp [text]
        rw [hw, readValue.eq_def]
        simp only [skipSpace_cons '[' _ rfl, skipSpace_append _ _ (l.gap_blank (level + 1)), hs, ht]
        rw [he, List.cons_append]
        split
        · simp_all
        · simp [hd]
    | obj members =>
      obtain ⟨hd, hm⟩ := hv
      cases members with
      | nil => simp [text, readValue, skipSpace_cons, isSpace, hd]
      | cons m ms =>
        obtain ⟨k, v⟩ := m
        simp only [text, List.length_cons, List.length_append] at hf
        have ht := readMembers_text k v ms level (depth + 1) fuel rest hm.1 hm.2 (by
          simp only [List.length_append, List.length_cons]
          omega)
        have hw : l.text level (.obj ((k, v) :: ms)) ++ rest =
            '\x7b' :: (l.gap (level + 1) ++ (writeString k ++ ':' :: (l.space ++
              (l.text (level + 1) v ++ (l.membersText level ms ++ rest))))) := by
          simp [text]
        rw [hw, readValue.eq_def]
        simp only [skipSpace_cons '\x7b' _ rfl, skipSpace_append _ _ (l.gap_blank (level + 1)), ht]
        rw [writeString_append, skipSpace_cons '\x22' _ rfl]
        simp [hd]
termination_by fuel

theorem readItems_text (v : Json) (vs : List Json) (level depth fuel : Nat) (rest : List Char)
    (hv : Legible depth v) (hvs : LegibleItems depth vs)
    (hf : (l.text (level + 1) v ++ l.itemsText level vs).length ≤ fuel) :
    readItems fuel depth (l.gap (level + 1) ++ (l.text (level + 1) v ++
      (l.itemsText level vs ++ rest))) = some (v :: vs, rest) := by
  have hp := l.length_itemsText_pos vs level
  rw [List.length_append] at hf
  cases fuel with
  | zero => omega
  | succ fuel =>
    have hh := readValue_text v (level + 1) depth fuel (l.itemsText level vs ++ rest) hv (by omega)
      (l.endsNumber_itemsText vs level rest)
    rw [readItems.eq_def]
    simp only [readValue_append _ _ _ _ (l.gap_blank (level + 1)), hh, Option.bind_eq_bind,
      Option.bind_some]
    cases vs with
    | nil =>
      rw [itemsText, List.append_assoc, skipSpace_append _ _ (l.gap_blank level)]
      rfl
    | cons w ws =>
      have hl : (l.text (level + 1) w ++ l.itemsText level ws).length ≤ fuel := by
        simp only [itemsText, List.length_cons, List.length_append] at hf ⊢
        omega
      have ht := readItems_text w ws level depth fuel rest hvs.1 hvs.2 hl
      have hw : l.itemsText level (w :: ws) ++ rest = ',' :: (l.gap (level + 1) ++
          (l.text (level + 1) w ++ (l.itemsText level ws ++ rest))) := by
        simp [itemsText]
      rw [hw, skipSpace_cons ',' _ rfl]
      simp [ht]
termination_by fuel

theorem readMembers_text (k : String) (v : Json) (ms : List (String × Json))
    (level depth fuel : Nat) (rest : List Char) (hv : Legible depth v) (hms : LegibleMembers depth ms)
    (hf : (writeString k ++ ':' :: (l.text (level + 1) v ++ l.membersText level ms)).length ≤ fuel) :
    readMembers fuel depth (l.gap (level + 1) ++ (writeString k ++ ':' :: (l.space ++
      (l.text (level + 1) v ++ (l.membersText level ms ++ rest))))) =
      some (some ((k, v) :: ms), rest) := by
  have hp := l.length_membersText_pos ms level
  simp only [List.length_append, List.length_cons] at hf
  cases fuel with
  | zero => omega
  | succ fuel =>
    have hh := readValue_text v (level + 1) depth fuel (l.membersText level ms ++ rest) hv (by omega)
      (l.endsNumber_membersText ms level rest)
    rw [writeString_append, readMembers.eq_def]
    simp only [skipSpace_append _ _ (l.gap_blank (level + 1)), skipSpace_cons '\x22' _ rfl,
      readString_write, Option.bind_eq_bind, Option.bind_some, skipSpace_cons ':' _ rfl,
      readValue_append _ _ _ _ l.space_blank, hh]
    cases ms with
    | nil =>
      rw [membersText, List.append_assoc, skipSpace_append _ _ (l.gap_blank level)]
      rfl
    | cons m ms =>
      obtain ⟨k', w⟩ := m
      have hl : (writeString k' ++ ':' :: (l.text (level + 1) w ++ l.membersText level ms)).length ≤
          fuel := by
        simp only [membersText, List.length_append, List.length_cons] at hf ⊢
        omega
      have ht := readMembers_text k' w ms level depth fuel rest hms.1 hms.2 hl
      have hw : l.membersText level ((k', w) :: ms) ++ rest =
          ',' :: (l.gap (level + 1) ++ (writeString k' ++ ':' :: (l.space ++
            (l.text (level + 1) w ++ (l.membersText level ms ++ rest))))) := by
        simp [membersText]
      rw [hw, skipSpace_cons ',' _ rfl]
      simp [ht]
termination_by fuel

end

theorem parse_text (v : Json) (h : Legible 0 v) : parse (l.text 0 v) = some v := by
  have hv := l.readValue_text v 0 0 ((l.text 0 v).length + 1) [] h (by omega) trivial
  rw [List.append_nil] at hv
  simp [parse, hv, skipSpace]

end Layout

/-- A legible value is read back from its compact text. -/
theorem parseText_compact (v : Json) (h : Legible 0 v) : parseText v.compact = some v := by
  rw [parseText, compact, String.toList_ofList, write_eq v 0]
  exact Layout.compact.parse_text v h

theorem parseText_pretty (v : Json) (h : Legible 0 v) : parseText v.pretty = some v := by
  rw [parseText, pretty, String.toList_ofList, writePretty_eq v 0]
  exact Layout.pretty.parse_text v h

end PacketReplay.Json
