set_option autoImplicit false

namespace PacketReplay

def dotParts (cs : List Char) : List (List Char) :=
  cs.splitOn '.'

def digitValue? (base : Nat) (c : Char) : Option Nat :=
  let n := c.toNat
  let v := if 48 ≤ n ∧ n ≤ 57 then n - 48
    else if 65 ≤ n ∧ n ≤ 70 then n - 55
    else if 97 ≤ n ∧ n ≤ 102 then n - 87
    else base
  if v < base then some v else none

def numberIn? (base : Nat) (cs : List Char) : Option Nat := do
  let digits ← cs.mapM (digitValue? base)
  some (digits.foldl (fun n d => n * base + d) 0)

namespace Ipv4

/-- One number of an address: hexadecimal after `0x`, octal after another zero. -/
def number? : List Char → Option Nat
  | [] => none
  | '0' :: 'x' :: cs => numberIn? 16 cs
  | '0' :: 'X' :: cs => numberIn? 16 cs
  | '0' :: c :: cs => numberIn? 8 (c :: cs)
  | cs => numberIn? 10 cs

/-- The last part of a host, one empty part at the end aside. -/
def lastPart (cs : List Char) : List Char :=
  match (dotParts cs).reverse with
  | [] :: part :: _ => part
  | part :: _ => part
  | [] => []

def isRequired (cs : List Char) : Bool :=
  let part := lastPart cs
  !part.isEmpty && (part.all Char.isDigit || (number? part).isSome)

/-- How many values the last of a number of numbers can have. -/
def lastBound (count : Nat) : Nat :=
  Nat.pow 256 (5 - count)

def read? (cs : List Char) : Option UInt32 := do
  let parts := match (dotParts cs).reverse with
    | [] :: rest => rest.reverse
    | _ => dotParts cs
  if 4 < parts.length then none
  let numbers ← parts.mapM number?
  let last ← numbers.getLast?
  if lastBound numbers.length ≤ last then none
  let bits := numbers.dropLast.zipIdx.foldl (fun n (x, i) => n + x * Nat.pow 256 (3 - i)) last
  if numbers.dropLast.all (· < 256) then some bits.toUInt32 else none

def write (a : UInt32) : String :=
  let n := a.toNat
  ".".intercalate ([n / 0x1000000, n / 0x10000 % 256, n / 0x100 % 256, n % 256].map toString)

end Ipv4

namespace Ipv6

def readPiece : Nat → Nat → List Char → Nat × List Char
  | 0, n, cs => (n, cs)
  | fuel + 1, n, c :: cs =>
    match digitValue? 16 c with
    | some d => readPiece fuel (n * 16 + d) cs
    | none => (n, c :: cs)
  | _, n, [] => (n, [])

/-- One of the four decimal numbers at the end: below 256 and without a zero in front. -/
def readOctet? (cs : List Char) : Option (Nat × List Char) :=
  let digits := cs.takeWhile Char.isDigit
  let n := digits.foldl (fun n c => n * 10 + (c.toNat - 48)) 0
  if digits.isEmpty ∨ (1 < digits.length ∧ digits.head? = some '0') ∨ 255 < n then none
  else some (n, cs.dropWhile Char.isDigit)

def readTail? (cs : List Char) : Option (List Nat) := do
  let (a, cs) ← readOctet? cs
  let '.' :: cs := cs | none
  let (b, cs) ← readOctet? cs
  let '.' :: cs := cs | none
  let (c, cs) ← readOctet? cs
  let '.' :: cs := cs | none
  let (d, cs) ← readOctet? cs
  if cs.isEmpty then some [a * 256 + b, c * 256 + d] else none

/-- How many pieces are taken; a run that is left out takes one. -/
def taken (pieces : List Nat) (before : Option (List Nat)) : Nat :=
  pieces.length + (before.map fun front => front.length + 1).getD 0

/-- Reads pieces: those before the run that is left out, if there is one, and all after it. -/
def readPieces? : Nat → List Char → List Nat → Option (List Nat) →
    Option (List Nat × Option (List Nat))
  | 0, _, _, _ => none
  | _, [], pieces, before => some (pieces, before)
  | fuel + 1, cs, pieces, before =>
    if taken pieces before = 8 then none
    else
      match cs with
      | ':' :: rest =>
        match before with
        | some _ => none
        | none => readPieces? fuel rest [] (some pieces)
      | _ =>
        let (n, rest) := readPiece 4 0 cs
        match rest with
        | '.' :: _ =>
          if rest.length = cs.length ∨ 6 < taken pieces before then none
          else (readTail? cs).map fun tail => (pieces ++ tail, before)
        | [':'] => none
        | ':' :: rest => readPieces? fuel rest (pieces ++ [n]) before
        | [] => some (pieces ++ [n], before)
        | _ => none

def read? (cs : List Char) : Option (List Nat) := do
  let start ← match cs with
    | ':' :: ':' :: rest => some (rest, some [])
    | ':' :: _ => none
    | _ => some (cs, none)
  let (pieces, before) ← readPieces? (cs.length + 1) start.1 [] start.2
  match before with
  | none => if pieces.length = 8 then some pieces else none
  | some front => some (front ++ List.replicate (8 - front.length - pieces.length) 0 ++ pieces)

def zeroRuns : List Nat → List Nat
  | [] => []
  | n :: rest =>
    let runs := zeroRuns rest
    (if n = 0 then runs.headD 0 + 1 else 0) :: runs

/-- Where the first longest run of two or more zeros begins, and its length. -/
def longestRun (pieces : List Nat) : Option (Nat × Nat) :=
  let runs := zeroRuns pieces
  let longest := runs.foldl max 0
  if longest < 2 then none else some (runs.findIdx (· = longest), longest)

def join (pieces : List Nat) : String :=
  ":".intercalate (pieces.map fun n => String.ofList (Nat.toDigits 16 n))

def write (pieces : List Nat) : String :=
  match longestRun pieces with
  | none => join pieces
  | some (start, length) => join (pieces.take start) ++ "::" ++ join (pieces.drop (start + length))

end Ipv6

end PacketReplay
