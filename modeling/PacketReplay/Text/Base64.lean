import PacketReplay.Text.Utf8

/-!
# Base64 and packed numbers

Base64 has the standard alphabet with padding. Decoding is strict: the length is a multiple of four,
padding is present exactly where it is due, and the bits that padding leaves unused are zero, so
every byte sequence has exactly one accepted text. Tables of numbers are packed into text with five
bits to a digit.
-/

set_option autoImplicit false

namespace PacketReplay.Base64

def digit (n : Nat) : Char :=
  if n < 26 then Char.ofNat (65 + n)
  else if n < 52 then Char.ofNat (97 + (n - 26))
  else if n < 62 then Char.ofNat (48 + (n - 52))
  else if n = 62 then '+' else '/'

def value? (c : Char) : Option Nat :=
  if 'A' ≤ c ∧ c ≤ 'Z' then some (c.toNat - 65)
  else if 'a' ≤ c ∧ c ≤ 'z' then some (c.toNat - 97 + 26)
  else if '0' ≤ c ∧ c ≤ '9' then some (c.toNat - 48 + 52)
  else if c = '+' then some 62
  else if c = '/' then some 63
  else none

def encodeChars : Bytes → List Char
  | [] => []
  | [a] =>
    [digit (a.toNat / 4), digit (a.toNat % 4 * 16), '=', '=']
  | [a, b] =>
    [digit (a.toNat / 4), digit (a.toNat % 4 * 16 + b.toNat / 16), digit (b.toNat % 16 * 4), '=']
  | a :: b :: c :: rest =>
    digit (a.toNat / 4) :: digit (a.toNat % 4 * 16 + b.toNat / 16) ::
      digit (b.toNat % 16 * 4 + c.toNat / 64) :: digit (c.toNat % 64) :: encodeChars rest

def decodeChars : List Char → Option Bytes
  | [] => some []
  | [p, q, '=', '='] => do
    let x ← value? p
    let y ← value? q
    if y % 16 = 0 then some [(x * 4 + y / 16).toUInt8] else none
  | [p, q, r, '='] => do
    let x ← value? p
    let y ← value? q
    let z ← value? r
    if z % 4 = 0 then some [(x * 4 + y / 16).toUInt8, (y % 16 * 16 + z / 4).toUInt8] else none
  | p :: q :: r :: s :: rest => do
    let x ← value? p
    let y ← value? q
    let z ← value? r
    let w ← value? s
    let tail ← decodeChars rest
    some ((x * 4 + y / 16).toUInt8 :: (y % 16 * 16 + z / 4).toUInt8 ::
      (z % 4 * 64 + w).toUInt8 :: tail)
  | _ => none

def encode (b : Bytes) : String :=
  String.ofList (encodeChars b)

def decode? (s : String) : Option Bytes :=
  decodeChars s.toList

end PacketReplay.Base64

namespace PacketReplay.Packed

/-- The five bits of a packed digit and whether more digits follow. -/
def digit (c : Char) : Nat × Bool :=
  let n := c.toNat
  let v :=
    if n ≤ 57 then if n = 45 then 62 else n - 48
    else if n ≤ 90 then n - 55
    else if n = 95 then 63
    else n - 61
  (v % 32, 32 ≤ v)

/-- Unpacks numbers, five bits to a digit, the least significant digit first. -/
def unpackFrom : List Char → Nat → Nat → List Nat
  | [], _, _ => []
  | c :: cs, value, weight =>
    let (d, more) := digit c
    let value := value + d * weight
    if more then unpackFrom cs value (weight * 32) else value :: unpackFrom cs 0 1

def unpack (s : String) : List Nat :=
  unpackFrom s.toList 0 1

end PacketReplay.Packed
