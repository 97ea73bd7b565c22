import PacketReplay.Proofs.CalendarDays
import PacketReplay.Time.Rfc3339

set_option autoImplicit false

namespace PacketReplay.Rfc3339

/-- What can follow digits without being read as one of them. -/
def EndsDigits : List Char → Prop
  | [] => True
  | c :: _ => c.isDigit = false

theorem spanDigits_append (ds rest : List Char) (width value count : Nat)
    (hd : ∀ c ∈ ds, c.isDigit = true) (hwidth : ds.length ≤ width)
    (hend : ds.length = width ∨ EndsDigits rest) :
    spanDigits width (ds ++ rest) value count =
      (Nat.ofDigitChars 10 ds value, count + ds.length, rest) := by
  induction ds generalizing width value count with
  | nil =>
    cases width with
    | zero => rfl
    | succ width =>
      obtain hzero | hend := hend
      · cases hzero
      · cases rest with
        | nil => rfl
        | cons c cs => simp [spanDigits, show c.isDigit = false from hend]
  | cons c ds ih =>
    cases width with
    | zero => simp at hwidth
    | succ width =>
      simp only [List.length_cons, Nat.add_le_add_iff_right, Nat.add_right_cancel_iff]
        at hwidth hend
      have hrest := ih width (value * 10 + (c.toNat - 48)) (count + 1)
        (fun d h => hd d (List.mem_cons_of_mem c h)) hwidth hend
      have hvalue : value * 10 + (c.toNat - 48) = 10 * value + (c.toNat - '0'.toNat) := by
        rw [Nat.mul_comm]
        rfl
      rw [List.cons_append, spanDigits, if_pos (hd c List.mem_cons_self), hrest, hvalue,
        Nat.ofDigitChars_cons, List.length_cons, Nat.add_assoc, Nat.add_comm 1]

theorem readNumber_append (width : Nat) (ds rest : List Char) (hd : ∀ c ∈ ds, c.isDigit = true)
    (hne : ds ≠ []) (hwidth : ds.length ≤ width)
    (hend : ds.length = width ∨ EndsDigits rest) :
    readNumber width (ds ++ rest) = some (Nat.ofDigitChars 10 ds 0, rest) := by
  have hlength : 0 + ds.length ≠ 0 := by simpa using hne
  rw [readNumber, spanDigits_append ds rest width 0 0 hd hwidth hend]
  split
  · rename_i heq
    exact absurd (congrArg (fun x => x.2.1) heq) hlength
  · rename_i heq
    cases heq
    rfl

section

variable (width n : Nat)

theorem isDigit_of_mem_padded (c : Char) (hc : c ∈ padded width n) : c.isDigit = true := by
  obtain h | h := List.mem_append.mp hc
  · rw [List.eq_of_mem_replicate h]
    rfl
  · exact Nat.isDigit_of_mem_toDigits (by decide) (by decide) h

theorem padded_ne_nil : padded width n ≠ [] := by
  intro h
  exact Nat.toDigits_ne_nil (List.append_eq_nil_iff.mp h).2

theorem length_padded (hwidth : 0 < width) (hn : n < 10 ^ width) :
    (padded width n).length = width := by
  have hdigits := (Nat.length_toDigits_le_iff (b := 10) (by decide) hwidth).mpr hn
  rw [padded, List.length_append, List.length_replicate]
  omega

theorem ofDigitChars_padded : Nat.ofDigitChars 10 (padded width n) 0 = n := by
  rw [padded, Nat.ofDigitChars_append, Nat.ofDigitChars_replicate_zero, Nat.mul_zero,
    Nat.ofDigitChars_ten_toDigits]

theorem readNumber_padded (hwidth : 0 < width) (hn : n < 10 ^ width) (rest : List Char) :
    readNumber width (padded width n ++ rest) = some (n, rest) := by
  have hlength := length_padded width n hwidth hn
  rw [readNumber_append width _ rest (isDigit_of_mem_padded width n) (padded_ne_nil width n)
    hlength.le (.inl hlength), ofDigitChars_padded]

theorem isBlank_of_isDigit (c : Char) (h : c.isDigit = true) : isBlank c = false := by
  obtain ⟨hlow, hhigh⟩ := Char.isDigit_iff_toNat.mp h
  change 48 ≤ c.toNat at hlow
  change c.toNat ≤ 57 at hhigh
  simp [isBlank]
  omega

theorem exists_padded_eq : ∃ c cs, padded width n = c :: cs ∧ c.isDigit = true := by
  obtain ⟨c, cs, h⟩ := List.exists_cons_of_ne_nil (padded_ne_nil width n)
  exact ⟨c, cs, h, isDigit_of_mem_padded width n c (by simp [h])⟩

theorem dropBlanks_padded (rest : List Char) :
    dropBlanks (padded width n ++ rest) = padded width n ++ rest := by
  obtain ⟨c, cs, h, hdigit⟩ := exists_padded_eq width n
  rw [h, List.cons_append, dropBlanks, List.dropWhile_cons_of_neg]
  simp [isBlank_of_isDigit c hdigit]

theorem padded_append_ne (rest : List Char) (c : Char) (cs : List Char) (hc : c.isDigit = false) :
    padded width n ++ rest ≠ c :: cs := by
  obtain ⟨d, ds, h, hdigit⟩ := exists_padded_eq width n
  rw [h, List.cons_append]
  intro heq
  rw [(List.cons.inj heq).1, hc] at hdigit
  cases hdigit

end

theorem readField_padded (low high n : Nat) (hlow : low ≤ n) (hhigh : n ≤ high) (h : high < 100)
    (rest : List Char) : readField low high (padded 2 n ++ rest) = some (n, rest) := by
  have hread := readNumber_padded 2 n (by decide) (by omega) rest
  simp [readField, dropBlanks_padded, hread, hlow, hhigh]

theorem expect_cons (c : Char) (rest : List Char) (hc : isBlank c = false) :
    expect c (c :: rest) = some rest := by
  simp [expect, dropBlanks, hc]

theorem readNumber_signed (n : Nat) (rest : List Char) :
    readNumber (padded 4 n ++ '-' :: rest).length (padded 4 n ++ '-' :: rest) =
      some (n, '-' :: rest) := by
  have hwidth : (padded 4 n).length ≤ (padded 4 n ++ '-' :: rest).length := by simp
  have hend : EndsDigits ('-' :: rest) := rfl
  rw [readNumber_append _ _ _ (isDigit_of_mem_padded 4 n) (padded_ne_nil 4 n) hwidth (.inr hend),
    ofDigitChars_padded]

theorem readYear_writeYear (y : Int) (rest : List Char) :
    readYear (writeYear y ++ '-' :: rest) = some (y, '-' :: rest) := by
  unfold writeYear
  split
  · rename_i hy
    have hread := readNumber_padded 4 y.toNat (by decide) (by omega) ('-' :: rest)
    rw [readYear, dropBlanks_padded]
    split
    · rename_i h
      exact absurd h (padded_append_ne _ _ _ _ _ rfl)
    · rename_i h
      exact absurd h (padded_append_ne _ _ _ _ _ rfl)
    · simp [hread, hy.1]
  · have hread := readNumber_signed y.natAbs rest
    split
    · rename_i hneg
      have hy : -(y.natAbs : Int) = y := by omega
      change (readNumber (padded 4 y.natAbs ++ '-' :: rest).length
        (padded 4 y.natAbs ++ '-' :: rest)).map _ = _
      rw [hread, Option.map_some]
      exact congrArg (fun x => some (x, '-' :: rest)) hy
    · rename_i hpos
      have hy : (y.natAbs : Int) = y := by omega
      change (readNumber (padded 4 y.natAbs ++ '-' :: rest).length
        (padded 4 y.natAbs ++ '-' :: rest)).map _ = _
      rw [hread, Option.map_some]
      exact congrArg (fun x => some (x, '-' :: rest)) hy

theorem readFraction_padded (width n : Nat) (hwidth : 0 < width) (hwide : width ≤ 9)
    (hn : n < 10 ^ width) (rest : List Char) :
    readFraction ('.' :: (padded width n ++ 'Z' :: rest)) =
      some (n * Nat.pow 10 (9 - width), 'Z' :: rest) := by
  have hlength := length_padded width n hwidth hn
  have hspan := spanDigits_append (padded width n) ('Z' :: rest) 9 0 0
    (isDigit_of_mem_padded width n) (by omega) (.inr rfl)
  rw [ofDigitChars_padded, hlength, Nat.zero_add] at hspan
  rw [readFraction, hspan]
  split
  · rename_i heq
    cases heq
    cases hwidth
  · rename_i heq
    cases heq
    rfl

theorem readFraction_writeFraction (nanos : Nat) (h : nanos < 1000000000) (rest : List Char) :
    readFraction (writeFraction nanos ++ 'Z' :: rest) = some (nanos, 'Z' :: rest) := by
  unfold writeFraction
  split_ifs with h0 h3 h6
  · rw [h0]
    rfl
  · have hn : nanos / 1000000 * Nat.pow 10 6 = nanos :=
      Nat.div_mul_cancel (Nat.dvd_of_mod_eq_zero h3)
    rw [List.cons_append, readFraction_padded 3 _ (by decide) (by decide) (by omega), hn]
  · have hn : nanos / 1000 * Nat.pow 10 3 = nanos := Nat.div_mul_cancel (Nat.dvd_of_mod_eq_zero h6)
    rw [List.cons_append, readFraction_padded 6 _ (by decide) (by decide) (by omega), hn]
  · rw [List.cons_append, readFraction_padded 9 _ (by decide) (by decide) (by omega)]
    simp

theorem bind_of_eq_some {α β : Type} {x : Option α} {a : α} (h : x = some a) (f : α → Option β) :
    (x >>= f) = f a := by
  rw [h]
  rfl

theorem read?_day (date : Day) (hdate : date.exists?) (rest : List Char) :
    read? (String.ofList (writeYear date.year ++ '-' :: (padded 2 date.month ++
      '-' :: (padded 2 date.day ++ 'T' :: rest)))) = readClock? date rest := by
  obtain ⟨hmonth1, hmonth12⟩ := date.month_bounds hdate
  obtain ⟨hday1, hday31⟩ := date.day_bounds hdate
  have hminus (rest : List Char) := expect_cons '-' rest rfl
  have hmonth := readField_padded 1 12 date.month hmonth1 hmonth12 (by decide)
  have hday := readField_padded 1 31 date.day hday1 hday31 (by decide)
  rw [read?, String.toList_ofList, bind_of_eq_some (readYear_writeYear date.year _)]
  dsimp only
  rw [bind_of_eq_some (hminus _), bind_of_eq_some (hmonth _)]
  dsimp only
  rw [bind_of_eq_some (hminus _), bind_of_eq_some (hday _)]
  rfl

theorem ofParts?_self (t : Instant) : Instant.ofParts? t.seconds t.nanos = some t :=
  dif_pos t.moment

theorem readClock?_chars (date : Day) (hour minute second fraction : Nat) (hdate : date.exists?)
    (hhour : hour ≤ 23) (hminute : minute ≤ 59) (hsecond : second ≤ 60)
    (hfraction : fraction < 1000000000) :
    readClock? date (padded 2 hour ++ ':' :: (padded 2 minute ++ ':' :: (padded 2 second ++
      (writeFraction fraction ++ ['Z'])))) = atClock? date hour minute second fraction := by
  have hcolon (rest : List Char) := expect_cons ':' rest rfl
  have hhour := readField_padded 0 23 hour (by omega) hhour (by decide)
  have hminute := readField_padded 0 59 minute (by omega) hminute (by decide)
  have hsecond := readField_padded 0 60 second (by omega) hsecond (by decide)
  have hfraction := readFraction_writeFraction fraction hfraction
  have hoffset : readOffset (dropBlanks ['Z']) = some (0, []) := rfl
  rw [readClock?, bind_of_eq_some (hhour _)]
  dsimp only
  rw [bind_of_eq_some (hcolon _), bind_of_eq_some (hminute _)]
  dsimp only
  rw [bind_of_eq_some (hcolon _), bind_of_eq_some (hsecond _)]
  dsimp only
  rw [bind_of_eq_some (hfraction _)]
  dsimp only
  rw [bind_of_eq_some hoffset]
  dsimp only
  rw [if_neg (by simp [hdate, dropBlanks])]
  cases atClock? date hour minute second fraction with
  | none => rfl
  | some t =>
    rw [Option.bind_eq_bind, Option.bind_some, Int.sub_zero, ofParts?_self]

theorem read?_write (t : Instant) : read? (write t) = some t := by
  obtain ⟨-, -, hnanos⟩ := t.moment
  have hdate := Day.exists?_ofCount (t.seconds / 86400)
  have hcount := Day.toCount_ofCount (t.seconds / 86400)
  have hseconds : t.seconds / 86400 * 86400 + ((t.seconds % 86400).toNat : Int) = t.seconds := by
    omega
  rw [write]
  generalize t.seconds / 86400 = count at hdate hcount hseconds
  generalize hclock : (t.seconds % 86400).toNat = clock at hseconds
  have hday : clock < 86400 := by omega
  simp only [List.append_assoc, List.cons_append]
  rw [read?_day _ hdate]
  split
  · rename_i hlt
    have hparts : clock / 3600 * 3600 + clock / 60 % 60 * 60 + clock % 60 = clock := by omega
    rw [readClock?_chars _ _ _ _ _ hdate (by omega) (by omega) (by omega) hlt, atClock?,
      if_neg (by omega)]
    dsimp only
    rw [hparts, hcount, hseconds, ofParts?_self]
  · -- the clock is at second 59 and shows 60
    rename_i hleap
    have hlast : clock % 60 = 59 := by omega
    have hparts : clock / 3600 * 3600 + clock / 60 % 60 * 60 + 59 = clock := by omega
    have hfraction : 1000000000 + (t.nanos - 1000000000) = t.nanos := by omega
    rw [readClock?_chars _ _ _ _ _ hdate (by omega) (by omega) (by omega) (by omega), atClock?,
      if_pos (by omega)]
    dsimp only
    rw [hparts, hcount, hseconds, hfraction, ofParts?_self]

end PacketReplay.Rfc3339
