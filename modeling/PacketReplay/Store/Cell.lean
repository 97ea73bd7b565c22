import PacketReplay.Text.Utf8
import PacketReplay.Number.Binary64

/-!
# Table cells

A cell holds nothing, an integer, a real number, text or bytes. A column prefers one kind of value,
and a value written to it from outside is converted to that kind when nothing is lost: numbers to
text in a text column, and text that reads as a number, or a real number that is whole, to a number
in an integer column.
-/

set_option autoImplicit false

namespace PacketReplay

inductive Cell where
  | null
  | int (n : Int)
  | real (x : Binary64)
  | text (s : String)
  | blob (b : Bytes)
deriving DecidableEq

inductive Affinity where
  | integer | text | blob
deriving DecidableEq

namespace Cell

def minInt : Int := -0x8000000000000000

def maxInt : Int := 0x7FFFFFFFFFFFFFFF

/-- A real number, as an integer when it is a whole one within the integers' bounds. -/
def ofReal (x : Binary64) : Cell :=
  match x.toInt? with
  | some n => if minInt < n ∧ n < maxInt then .int n else .real x
  | none => .real x

def isNumberBlank (c : Char) : Bool :=
  c == ' ' || (9 ≤ c.toNat && c.toNat ≤ 13)

def digitsValue (cs : List Char) : Nat :=
  cs.foldl (fun n c => n * 10 + (c.toNat - 48)) 0

def splitSign (cs : List Char) : Bool × List Char :=
  match cs with
  | '-' :: rest => (true, rest)
  | '+' :: rest => (false, rest)
  | _ => (false, cs)

/-- The power of ten after the digits of a number, if that is all there is. -/
def exponent? (cs : List Char) : Option Int :=
  match cs with
  | [] => some 0
  | e :: rest =>
    if e = 'e' ∨ e = 'E' then
      let (negative, digits) := splitSign rest
      if digits.isEmpty ∨ !digits.all Char.isDigit then none
      else some (if negative then -(digitsValue digits : Int) else digitsValue digits)
    else none

def nearest? (negative : Bool) (significand : Nat) (e : Int) : Option Binary64 :=
  if significand = 0 then some (Binary64.zero negative)
  else if 400 < e then none
  else if e < -800 - (Nat.log2 significand : Int) then some (Binary64.zero negative)
  else if 0 ≤ e then Binary64.ofRatio negative (significand * Nat.pow 10 e.toNat) 1
  else Binary64.ofRatio negative significand (Nat.pow 10 (-e).toNat)

/-- The number a whole text writes, blanks around it aside. -/
def number? (s : String) : Option Cell := do
  let cs := ((s.toList.dropWhile isNumberBlank).reverse.dropWhile isNumberBlank).reverse
  let (negative, cs) := splitSign cs
  let whole := cs.takeWhile Char.isDigit
  let rest := cs.dropWhile Char.isDigit
  let (fraction, rest, plain) := match rest with
    | '.' :: after => (after.takeWhile Char.isDigit, after.dropWhile Char.isDigit, false)
    | _ => ([], rest, rest.isEmpty)
  if whole.isEmpty ∧ fraction.isEmpty then none
  else
    let n := digitsValue (whole ++ fraction)
    let signed : Int := if negative then -n else n
    if plain ∧ minInt ≤ signed ∧ signed ≤ maxInt then some (.int signed)
    else
      let e ← exponent? rest
      let x ← nearest? negative n (e - fraction.length)
      some (.real x)

def roundHalfUp (num den : Nat) : Nat :=
  (2 * num + den) / (2 * den)

/-- The fifteen significant digits of a positive double, with the power of ten of the first. -/
def fifteenDigits (x : Binary64) : Nat × Int :=
  let (num, den) := x.ratio
  let guess : Int := ((Nat.log2 num : Int) - (Nat.log2 den : Int)) * 30103 / 100000 - 1
  let scaled (e : Int) : Nat :=
    if 14 ≤ e then roundHalfUp num (den * Nat.pow 10 (e - 14).toNat)
    else roundHalfUp (num * Nat.pow 10 (14 - e).toNat) den
  let rec settle : Nat → Int → Nat × Int
    | 0, e => (scaled e, e)
    | fuel + 1, e => if scaled e < 1000000000000000 then (scaled e, e) else settle fuel (e + 1)
  settle 5 guess

def trimZeros (cs : List Char) : List Char :=
  (cs.reverse.dropWhile (· == '0')).reverse

def orZero (cs : List Char) : List Char :=
  if cs.isEmpty then ['0'] else cs

/-- The text of a real number: fifteen significant digits at most, always with a point, in exponent
form when very small or very large. -/
def realText (x : Binary64) : String :=
  let magnitude :=
    if x.isZero then ['0', '.', '0']
    else
      let (n, e) := fifteenDigits x
      let digits := Nat.toDigits 10 n
      if e < -4 ∨ 14 < e then
        let power := Nat.toDigits 10 e.natAbs
        digits.take 1 ++ '.' :: (orZero (trimZeros (digits.drop 1)) ++ 'e' ::
          (if e < 0 then '-' else '+') :: (List.replicate (2 - power.length) '0' ++ power))
      else if e < 0 then
        '0' :: '.' :: (List.replicate (-e - 1).toNat '0' ++ orZero (trimZeros digits))
      else
        digits.take (e.toNat + 1) ++ '.' :: orZero (trimZeros (digits.drop (e.toNat + 1)))
  String.ofList (if x.negative ∧ !x.isZero then '-' :: magnitude else magnitude)

def convert (affinity : Affinity) (c : Cell) : Cell :=
  match affinity, c with
  | .integer, .real x => ofReal x
  | .integer, .text s =>
    match number? s with
    | some (.real x) => ofReal x
    | some c => c
    | none => .text s
  | .text, .int n => .text (toString n)
  | .text, .real x => .text (realText x)
  | _, c => c

/-- Whether a cell is at least a whole number. Text and bytes come after all numbers; nothing is
compared with an empty cell. -/
def atLeast (c : Cell) (n : Int) : Bool :=
  match c with
  | .null => false
  | .int m => n ≤ m
  | .real x =>
    let (num, den) := x.ratio
    n * den ≤ (if x.negative then -(num : Int) else num)
  | .text _ => true
  | .blob _ => true

def atMost (c : Cell) (n : Int) : Bool :=
  match c with
  | .null => false
  | .int m => m ≤ n
  | .real x =>
    let (num, den) := x.ratio
    (if x.negative then -(num : Int) else num) ≤ n * den
  | .text _ => false
  | .blob _ => false

def int? : Cell → Option Int
  | .int n => some n
  | _ => none

def nullableInt? : Cell → Option (Option Int)
  | .null => some none
  | .int n => some (some n)
  | _ => none

def text? : Cell → Option String
  | .text s => some s
  | _ => none

def nullableBlob? : Cell → Option (Option Bytes)
  | .null => some none
  | .blob b => some (some b)
  | _ => none

def ofOption {α : Type} (f : α → Cell) : Option α → Cell
  | some a => f a
  | none => .null

end Cell

end PacketReplay
