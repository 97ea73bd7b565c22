import PacketReplay.Text.Base64
import PacketReplay.Url.Composition

set_option autoImplicit false

namespace PacketReplay.Domain

def numberedRanges : Nat → List Nat → List (Nat × Nat × Nat)
  | origin, gap :: size :: n :: rest =>
    (origin + gap, origin + gap + size, n) :: numberedRanges (origin + gap + size + 1) rest
  | _, _ => []

def markOrder : List (Nat × Nat × Nat) :=
  numberedRanges 0 (Packed.unpack markOrderPacked)

def orderOf (c : Char) : Nat :=
  match markOrder.find? fun r => r.1 ≤ c.toNat && c.toNat ≤ r.2.1 with
  | some r => r.2.2
  | none => 0

def pairsOf (first : Nat) : Nat → List Nat → List (Nat × Nat × Nat) × List Nat
  | count + 1, second :: composed :: rest =>
    let (pairs, rest) := pairsOf first count rest
    ((first, second, composed) :: pairs, rest)
  | _, rest => ([], rest)

def pairsFrom : Nat → Nat → List Nat → List (Nat × Nat × Nat)
  | fuel + 1, origin, gap :: count :: rest =>
    let (pairs, rest) := pairsOf (origin + gap) (count + 1) rest
    pairs ++ pairsFrom fuel (origin + gap + 1) rest
  | _, _, _ => []

def composedPairs : List (Nat × Nat × Nat) :=
  let numbers := Packed.unpack composedPacked
  pairsFrom numbers.length 0 numbers

def parts? (n : Nat) : Option (Nat × Nat) :=
  if 0xAC00 ≤ n ∧ n ≤ 0xD7A3 then
    let k := n - 0xAC00
    if k % 28 = 0 then some (0x1100 + k / 588, 0x1161 + k % 588 / 28)
    else some (n - k % 28, 0x11A7 + k % 28)
  else (composedPairs.find? fun p => p.2.2 == n).map fun p => (p.1, p.2.1)

def compose? (a b : Nat) : Option Nat :=
  if 0x1100 ≤ a ∧ a ≤ 0x1112 ∧ 0x1161 ≤ b ∧ b ≤ 0x1175 then
    some (0xAC00 + ((a - 0x1100) * 21 + (b - 0x1161)) * 28)
  else if 0xAC00 ≤ a ∧ a ≤ 0xD7A3 ∧ (a - 0xAC00) % 28 = 0 ∧ 0x11A8 ≤ b ∧ b ≤ 0x11C2 then
    some (a + (b - 0x11A7))
  else (composedPairs.find? fun p => p.1 == a && p.2.1 == b).map fun p => p.2.2

def takeApart : Nat → Nat → List Nat
  | 0, n => [n]
  | fuel + 1, n =>
    match parts? n with
    | some (a, b) => takeApart fuel a ++ [b]
    | none => [n]

/-- Puts a mark before all marks at the end that come after it in the order. -/
def insertMark (mark : Char) (order : Nat) : List Char → List Char
  | [] => [mark]
  | c :: done => if order < orderOf c then c :: insertMark mark order done else mark :: c :: done

/-- Characters with their marks in order, the last one first. -/
def orderMarks : List Char → List Char → List Char
  | [], done => done
  | c :: cs, done =>
    let order := orderOf c
    orderMarks cs (if order = 0 then c :: done else insertMark c order done)

/-- What has been put together: the characters before the base, the last one first; the base; the
marks that stay after it, the last one first. -/
structure Composing where
  before : List Char
  base : Option Char
  marks : List Char

namespace Composing

/-- Takes one character: into the base when nothing is in the way and the two make one. -/
def take (s : Composing) (c : Char) : Composing :=
  let order := orderOf c
  let composed : Option Nat := match s.base, s.marks with
    | some b, [] => compose? b.toNat c.toNat
    | some b, m :: _ =>
      if order ≠ 0 ∧ orderOf m < order then compose? b.toNat c.toNat else none
    | none, _ => none
  match composed with
  | some n => { s with base := some (Char.ofNat n) }
  | none =>
    if order = 0 then ⟨s.marks ++ s.base.toList ++ s.before, some c, []⟩
    else { s with marks := c :: s.marks }

def chars (s : Composing) : List Char :=
  (s.marks ++ s.base.toList ++ s.before).reverse

end Composing

def composedForm (cs : List Char) : List Char :=
  let apart := cs.flatMap fun c => (takeApart 4 c.toNat).map Char.ofNat
  ((orderMarks apart []).reverse.foldl Composing.take ⟨[], none, []⟩).chars

end PacketReplay.Domain
