set_option autoImplicit false

namespace PacketReplay.Punycode

def digit (v : Nat) : Char :=
  if v < 26 then Char.ofNat (97 + v) else Char.ofNat (22 + v)

def value? (c : Char) : Option Nat :=
  if c.isDigit then some (c.toNat - 22)
  else if c.isLower then some (c.toNat - 97)
  else if c.isUpper then some (c.toNat - 65)
  else none

/-- The value from which on a digit at a place is not the last. -/
def threshold (place bias : Nat) : Nat :=
  if place ≤ bias then 1 else if bias + 26 ≤ place then 26 else place - bias

/-- How often a distance is divided to become small, with what is left; in a number of steps at
most. -/
def scale : Nat → Nat → Nat → Nat × Nat
  | 0, delta, k => (delta, k)
  | fuel + 1, delta, k => if 455 < delta then scale fuel (delta / 35) (k + 36) else (delta, k)

/-- The bias after a distance, when a number of characters have been written. -/
def adapt (delta count : Nat) (isFirst : Bool) : Nat :=
  let delta := if isFirst then delta / 700 else delta / 2
  let (delta, k) := scale 16 (delta + delta / count) 0
  k + 36 * delta / (delta + 38)

/-- The digits of a distance, from a place on; as many as the fuel at most. -/
def writeNumber : Nat → Nat → Nat → Nat → List Char
  | 0, _, _, _ => []
  | fuel + 1, bias, place, n =>
    let t := threshold place bias
    if n < t then [digit n]
    else digit (t + (n - t) % (36 - t)) :: writeNumber fuel bias (place + 36) ((n - t) / (36 - t))

/-- What is being written: the digits, the distance so far, the bias, and how many characters are
done. -/
structure Writing where
  out : List Char
  delta : Nat
  bias : Nat
  count : Nat

def Writing.pass (basic point : Nat) (w : Writing) (c : Char) : Writing :=
  if c.toNat < point then { w with delta := w.delta + 1 }
  else if c.toNat = point then
    { out := w.out ++ writeNumber 16 w.bias 36 w.delta
      delta := 0
      bias := adapt w.delta (w.count + 1) (w.count == basic)
      count := w.count + 1 }
  else w

/-- Writes all places of code points given in rising order, the last of them done before. -/
def writePoints (cs : List Char) (basic : Nat) : List Nat → Nat → Writing → Writing
  | [], _, w => w
  | point :: rest, next, w =>
    let w := { w with delta := w.delta + (point - next) * (w.count + 1) }
    let w := cs.foldl (Writing.pass basic point) w
    writePoints cs basic rest (point + 1) { w with delta := w.delta + 1 }

def insertRising (n : Nat) : List Nat → List Nat
  | [] => [n]
  | m :: ms => if n < m then n :: m :: ms else if n = m then m :: ms else m :: insertRising n ms

def encode (cs : List Char) : List Char :=
  let basic := cs.filter fun c => c.toNat < 128
  let points := (cs.filter fun c => 128 ≤ c.toNat).foldr (fun c ps => insertRising c.toNat ps) []
  let w := writePoints cs basic.length points 128 ⟨[], 0, 72, basic.length⟩
  (if basic.isEmpty then [] else basic ++ ['-']) ++ w.out

def readNumber : List Char → Nat → Nat → Nat → Nat → Option (Nat × List Char)
  | [], _, _, _, _ => none
  | c :: cs, bias, place, weight, n => do
    let v ← value? c
    let n := n + v * weight
    let t := threshold place bias
    if 0x100000000 ≤ n then none
    else if v < t then some (n, cs)
    else readNumber cs bias (place + 36) (weight * (36 - t)) n

/-- Reads characters into their places, each distance with one digit at least. -/
def readPoints : Nat → List Char → Nat → Nat → Nat → Bool → List Char → Option (List Char)
  | _, [], _, _, _, _, done => some done
  | 0, _, _, _, _, _, _ => none
  | fuel + 1, cs, point, place, bias, isFirst, done => do
    let (delta, rest) ← readNumber cs bias 36 1 0
    let total := place + delta
    let size := done.length + 1
    let point := point + total / size
    let place := total % size
    if 0x10FFFF < point ∨ (0xD800 ≤ point ∧ point ≤ 0xDFFF) then none
    else
      readPoints fuel rest point (place + 1) (adapt delta size isFirst) false
        (done.take place ++ Char.ofNat point :: done.drop place)

def decode? (cs : List Char) : Option (List Char) :=
  let extended := (cs.reverse.takeWhile (· != '-')).reverse
  let basic := (cs.take (cs.length - extended.length)).dropLast
  if cs.any fun c => 128 ≤ c.toNat then none
  else readPoints extended.length extended 128 0 72 true basic

end PacketReplay.Punycode
