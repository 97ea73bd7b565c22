/-!
# Double-precision numbers, exactly

A finite IEEE 754 double as a sign, a whole significand and a power of two, with rounding to
nearest, ties to even, computed in natural-number arithmetic. Nothing here uses the machine's
floating point, so every result can be evaluated inside a proof.

A double read from decimal digits is *not* always the nearest double to those digits: the
significand is rounded first and is then multiplied or divided by a rounded power of ten.
-/

set_option autoImplicit false

namespace PacketReplay

/-- A finite double: `± significand · 2 ^ exponent`. Values made by this module have a significand
below `2 ^ 53` and an exponent from `-1074` to `971`, and only the least exponent goes with a
significand below `2 ^ 52`. -/
structure Binary64 where
  negative : Bool
  significand : Nat
  exponent : Int
deriving DecidableEq

namespace Binary64

def zero (negative : Bool) : Binary64 :=
  ⟨negative, 0, -1074⟩

def scale (num den : Nat) (e : Int) : Nat × Nat :=
  if 0 ≤ e then (num, den * Nat.pow 2 e.toNat) else (num * Nat.pow 2 (-e).toNat, den)

/-- A quotient rounded to the nearest whole number, ties to even. -/
def roundQuotient (num den : Nat) : Nat :=
  let q := num / den
  let r := num % den
  if den < 2 * r ∨ (2 * r = den ∧ q % 2 = 1) then q + 1 else q

/-- The double nearest to `± num / den`; `none` when that is beyond the largest finite one. -/
def ofRatio (negative : Bool) (num den : Nat) : Option Binary64 :=
  if num = 0 then some (zero negative)
  else
    let guess : Int := (Nat.log2 num : Int) - (Nat.log2 den : Int) - 53
    let (n, d) := scale num den guess
    let exact := if 0x20000000000000 ≤ n / d then guess + 1 else guess
    let e := max exact (-1074)
    let (n, d) := scale num den e
    let q := roundQuotient n d
    let (q, e) := if q = 0x20000000000000 then (0x10000000000000, e + 1) else (q, e)
    if 971 < e then none else some ⟨negative, q, e⟩

def ratio (x : Binary64) : Nat × Nat :=
  if 0 ≤ x.exponent then (x.significand * Nat.pow 2 x.exponent.toNat, 1)
  else (x.significand, Nat.pow 2 (-x.exponent).toNat)

def isZero (x : Binary64) : Bool :=
  x.significand == 0

/-- The product with `10 ^ n`, that power rounded first. -/
def timesPowerOfTen (x : Binary64) (n : Nat) : Option Binary64 := do
  let p ← ofRatio false (Nat.pow 10 n) 1
  let (a, b) := x.ratio
  let (c, d) := p.ratio
  ofRatio x.negative (a * c) (b * d)

def overPowerOfTen (x : Binary64) (n : Nat) : Option Binary64 := do
  let p ← ofRatio false (Nat.pow 10 n) 1
  let (a, b) := x.ratio
  let (c, d) := p.ratio
  ofRatio x.negative (a * d) (b * c)

/-- Scales by a power of ten, at most 308 decimal places at a time. A number that has reached zero
stays there; `none` on overflow. Three rounds take any 64-bit significand to zero, so the fuel of
four is never used up. -/
def scaleDecimal : Nat → Binary64 → Int → Option Binary64
  | 0, x, _ => some x
  | fuel + 1, x, e =>
    if e.natAbs ≤ 308 then
      if 0 ≤ e then x.timesPowerOfTen e.natAbs else x.overPowerOfTen e.natAbs
    else if x.isZero then some x
    else if 0 ≤ e then none
    else do scaleDecimal fuel (← x.overPowerOfTen 308) (e + 308)

def ofDecimal (negative : Bool) (significand : Nat) (e : Int) : Option Binary64 := do
  scaleDecimal 4 (← ofRatio negative significand 1) e

def toInt? (x : Binary64) : Option Int :=
  let (num, den) := x.ratio
  if num % den = 0 then
    let n : Int := num / den
    some (if x.negative then -n else n)
  else none

end Binary64

end PacketReplay
