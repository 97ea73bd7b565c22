import PacketReplay.Text.Basic
import PacketReplay.Time.Instant

/-!
# Timestamps as text

Writing gives RFC 3339 in UTC with `Z`: a fraction of 0, 3, 6 or 9 digits as needed, and a signed
year outside 0 to 9999. Reading is more lenient than RFC 3339: blanks may stand before numbers and
separators, a year may be signed and then have any number of digits, digits of a fraction after the
ninth are dropped, and `UTC` may stand for `Z`.
-/

set_option autoImplicit false

namespace PacketReplay.Rfc3339

/-- Decimal digits at the front, at most `width` of them, with their number and how many there
were. -/
def spanDigits : Nat → List Char → Nat → Nat → Nat × Nat × List Char
  | 0, cs, value, count => (value, count, cs)
  | _ + 1, [], value, count => (value, count, [])
  | width + 1, c :: cs, value, count =>
    if c.isDigit then spanDigits width cs (value * 10 + (c.toNat - 48)) (count + 1)
    else (value, count, c :: cs)

def readNumber (width : Nat) (cs : List Char) : Option (Nat × List Char) :=
  match spanDigits width cs 0 0 with
  | (_, 0, _) => none
  | (n, _, rest) => some (n, rest)

/-- A number of at most two digits after blanks, no greater than `high`. -/
def readField (low high : Nat) (cs : List Char) : Option (Nat × List Char) := do
  let (n, rest) ← readNumber 2 (dropBlanks cs)
  if low ≤ n ∧ n ≤ high then some (n, rest) else none

/-- A year after blanks: four digits at most, or a sign and any number of digits. -/
def readYear (cs : List Char) : Option (Int × List Char) :=
  match dropBlanks cs with
  | '-' :: rest => (readNumber rest.length rest).map fun (n, rest) => (-(n : Int), rest)
  | '+' :: rest => (readNumber rest.length rest).map fun (n, rest) => ((n : Int), rest)
  | rest => (readNumber 4 rest).map fun (n, rest) => ((n : Int), rest)

def expect (c : Char) (cs : List Char) : Option (List Char) :=
  match dropBlanks cs with
  | d :: rest => if c = d then some rest else none
  | [] => none

def readFraction : List Char → Option (Nat × List Char)
  | '.' :: cs =>
    match spanDigits 9 cs 0 0 with
    | (_, 0, _) => none
    | (n, count, rest) => some (n * Nat.pow 10 (9 - count), rest.dropWhile Char.isDigit)
  | cs => some (0, cs)

/-- The digits of a whole offset from UTC, hours and minutes, in seconds. -/
def readHoursMinutes : List Char → Option (Nat × List Char)
  | a :: b :: cs =>
    if a.isDigit && b.isDigit then
      match cs.dropWhile fun c => c == ':' || isBlank c with
      | c :: d :: rest =>
        if '0' ≤ c ∧ c ≤ '5' ∧ d.isDigit then
          let hours := (a.toNat - 48) * 10 + (b.toNat - 48)
          let minutes := (c.toNat - 48) * 10 + (d.toNat - 48)
          some (hours * 3600 + minutes * 60, rest)
        else none
      | _ => none
    else none
  | _ => none

def readOffset (cs : List Char) : Option (Int × List Char) :=
  match cs with
  | 'Z' :: rest | 'z' :: rest => some (0, rest)
  | u :: t :: c :: rest =>
    if u.toLower = 'u' ∧ t.toLower = 't' ∧ c.toLower = 'c' then some (0, rest)
    else
      let signed : Option (Int × List Char) :=
        if u = '+' then some (1, t :: c :: rest)
        else if u = '-' ∨ u = '\u2212' then some (-1, t :: c :: rest)
        else none
      do
        let (sign, cs) ← signed
        let (seconds, rest) ← readHoursMinutes cs
        if seconds < 86400 then some (sign * seconds, rest) else none
  | _ => none

/-- The instant at a time of a day. Second 60 is a leap second. -/
def atClock? (date : Day) (hour minute second fraction : Nat) : Option Instant :=
  let (second, nanos) := if second = 60 then (59, 1000000000 + fraction) else (second, fraction)
  let clock : Nat := hour * 3600 + minute * 60 + second
  Instant.ofParts? (date.toCount * 86400 + clock) nanos

/-- The instant that a day and the text after it write. Both the local day and the UTC moment have
to be in range. -/
def readClock? (date : Day) (cs : List Char) : Option Instant := do
  let (hour, cs) ← readField 0 23 cs
  let cs ← expect ':' cs
  let (minute, cs) ← readField 0 59 cs
  let cs ← expect ':' cs
  let (second, cs) ← readField 0 60 cs
  let (fraction, cs) ← readFraction cs
  let (offset, cs) ← readOffset (dropBlanks cs)
  if dropBlanks cs ≠ [] ∨ !date.exists? then none
  else
    let localTime ← atClock? date hour minute second fraction
    Instant.ofParts? (localTime.seconds - offset) localTime.nanos

def read? (s : String) : Option Instant := do
  let (year, cs) ← readYear s.toList
  let cs ← expect '-' cs
  let (month, cs) ← readField 1 12 cs
  let cs ← expect '-' cs
  let (day, cs) ← readField 1 31 cs
  match cs with
  | 't' :: rest | 'T' :: rest | ' ' :: rest => readClock? ⟨year, month, day⟩ rest
  | _ => none

def padded (width n : Nat) : List Char :=
  let digits := Nat.toDigits 10 n
  List.replicate (width - digits.length) '0' ++ digits

/-- A year: four digits from 0 to 9999, and a sign with at least four digits outside. -/
def writeYear (y : Int) : List Char :=
  if 0 ≤ y ∧ y ≤ 9999 then padded 4 y.toNat
  else (if y < 0 then '-' else '+') :: padded 4 y.natAbs

def writeFraction (nanos : Nat) : List Char :=
  if nanos = 0 then []
  else if nanos % 1000000 = 0 then '.' :: padded 3 (nanos / 1000000)
  else if nanos % 1000 = 0 then '.' :: padded 6 (nanos / 1000)
  else '.' :: padded 9 nanos

/-- The text of an instant. A leap second shows as second 60. -/
def write (t : Instant) : String :=
  let date := Day.ofCount (t.seconds / 86400)
  let clock := (t.seconds % 86400).toNat
  let second := clock % 60
  let (second, nanos) :=
    if t.nanos < 1000000000 then (second, t.nanos) else (second + 1, t.nanos - 1000000000)
  String.ofList (writeYear date.year ++ '-' :: padded 2 date.month ++ '-' :: padded 2 date.day ++
    'T' :: padded 2 (clock / 3600) ++ ':' :: padded 2 (clock / 60 % 60) ++ ':' ::
    padded 2 second ++ writeFraction nanos ++ ['Z'])

end PacketReplay.Rfc3339
