import PacketReplay.Number.Binary64

set_option autoImplicit false

namespace PacketReplay.Binary64

structure Digits where
  whole : Nat
  exponent : Int
deriving DecidableEq

def powerOfTen (e : Int) : Nat × Nat :=
  if 0 ≤ e then (Nat.pow 10 e.toNat, 1) else (1, Nat.pow 10 (-e).toNat)

/-- Twice the gaps from a double to the midpoints below and above it, both over the common
denominator of `x.ratio` doubled once more: the interval of values that round to `x`. The gap below
is half as wide at a power of two. -/
def interval (x : Binary64) : Nat × Nat × Nat × Nat :=
  let (num, den) := x.ratio
  let unit := if 0 ≤ x.exponent then Nat.pow 2 x.exponent.toNat else 1
  let narrow := x.significand = 0x10000000000000 ∧ -1074 < x.exponent
  let lowGap := if narrow then unit else 2 * unit
  (4 * num - lowGap, 4 * num, 4 * num + 2 * unit, 4 * den)

/-- Whether `w · 10 ^ e` rounds to `x`; the ends of the interval count when the significand is
even. -/
def reads (x : Binary64) (w : Nat) (e : Int) : Bool :=
  let (low, _, high, den) := interval x
  let (a, b) := powerOfTen e
  let v := w * a * den
  if x.significand % 2 = 0 then decide (low * b ≤ v) && decide (v ≤ high * b)
  else decide (low * b < v) && decide (v < high * b)

/-- The candidates with the power of ten `e`: the multiple just below the double and the one just
above, if they read back; the nearer of the two when both do, the even one on a tie. -/
def candidate? (x : Binary64) (e : Int) : Option Digits :=
  let (num, den) := x.ratio
  let (a, b) := powerOfTen e
  let n := num * b
  let d := den * a
  let below := n / d
  let twice := 2 * (n % d)
  match reads x below e && below != 0, reads x (below + 1) e with
  | true, true =>
    if twice < d ∨ (twice = d ∧ below % 2 = 0) then some ⟨below, e⟩ else some ⟨below + 1, e⟩
  | true, false => some ⟨below, e⟩
  | false, true => some ⟨below + 1, e⟩
  | false, false => none

/-- The first power of ten, going down from `e`, at which some digits read back. -/
def searchDigits (x : Binary64) : Nat → Int → Digits
  | 0, e => ⟨0, e⟩
  | fuel + 1, e =>
    match candidate? x e with
    | some d => d
    | none => searchDigits x fuel (e - 1)

def Digits.stripZeros : Nat → Digits → Digits
  | 0, d => d
  | fuel + 1, d =>
    if d.whole ≠ 0 ∧ d.whole % 10 = 0 then Digits.stripZeros fuel ⟨d.whole / 10, d.exponent + 1⟩
    else d

/-- The shortest digits of a positive double. The search starts above the number's own magnitude
and needs at most twenty steps, because seventeen digits always suffice. -/
def shortest (x : Binary64) : Digits :=
  let (num, den) := x.ratio
  let start : Int := ((Nat.log2 num : Int) - (Nat.log2 den : Int) + 1) * 30103 / 100000 + 2
  (searchDigits x 40 start).stripZeros 40

def Digits.layout (d : Digits) : List Char :=
  let digits := Nat.toDigits 10 d.whole
  let size : Int := digits.length
  let point := size + d.exponent
  if 0 ≤ d.exponent ∧ point ≤ 16 then
    digits ++ List.replicate d.exponent.toNat '0' ++ ['.', '0']
  else if 0 < point ∧ point ≤ 16 then
    digits.take point.toNat ++ '.' :: digits.drop point.toNat
  else if -5 < point ∧ point ≤ 0 then
    '0' :: '.' :: (List.replicate (-point).toNat '0' ++ digits)
  else
    let power := (toString (point - 1)).toList
    match digits with
    | [] => []
    | [c] => c :: 'e' :: power
    | c :: cs => c :: '.' :: (cs ++ 'e' :: power)

def text (x : Binary64) : List Char :=
  let magnitude := if x.isZero then ['0', '.', '0'] else x.shortest.layout
  if x.negative then '-' :: magnitude else magnitude

end PacketReplay.Binary64
