import PacketReplay.Json.Basic

/-!
# Reading JSON text

A recursive-descent reader over characters. The fuel of every loop is the number of characters
still to read, which each step spends at least one of, so it never runs out on any text.

Integers that fit 64 bits (signed when there is a minus sign, unsigned otherwise) are exact; `-0`,
other integers, and numbers with a point or an exponent are doubles. Digits that no longer fit
64 bits only move the power of ten.
-/

set_option autoImplicit false

namespace PacketReplay.Json

/-- The containers that may enclose a container which is still a value. -/
def maxDepth : Nat := 127

def isSpace (c : Char) : Bool :=
  c == ' ' || c == '\n' || c == '\t' || c == '\r'

def skipSpace (cs : List Char) : List Char :=
  cs.dropWhile isSpace

def digit? (c : Char) : Option Nat :=
  if '0' ≤ c ∧ c ≤ '9' then some (c.toNat - 48) else none

def hexDigit? (c : Char) : Option Nat :=
  if '0' ≤ c ∧ c ≤ '9' then some (c.toNat - 48)
  else if 'a' ≤ c ∧ c ≤ 'f' then some (c.toNat - 87)
  else if 'A' ≤ c ∧ c ≤ 'F' then some (c.toNat - 55)
  else none

def hexFour? : List Char → Option (Nat × List Char)
  | a :: b :: c :: d :: rest => do
    let w ← hexDigit? a
    let x ← hexDigit? b
    let y ← hexDigit? c
    let z ← hexDigit? d
    some (((w * 16 + x) * 16 + y) * 16 + z, rest)
  | _ => none

def escaped? : Char → Option Char
  | '\x22' => some '\x22'
  | '\\' => some '\\'
  | '/' => some '/'
  | 'b' => some '\x08'
  | 'f' => some '\x0c'
  | 'n' => some '\n'
  | 'r' => some '\r'
  | 't' => some '\t'
  | _ => none

def lowHalf? : List Char → Option (Nat × List Char)
  | '\\' :: 'u' :: rest => do
    let (n, rest) ← hexFour? rest
    if 0xDC00 ≤ n ∧ n ≤ 0xDFFF then some (n, rest) else none
  | _ => none

/-- Reads the rest of a string after its opening quote. The text is `none` when it holds half a
surrogate pair; the whole is `none` when the string is malformed. -/
def readString : Nat → List Char → List Char → Bool → Option (Option String × List Char)
  | 0, _, _, _ => none
  | fuel + 1, cs, acc, whole =>
    match cs with
    | [] => none
    | '\x22' :: rest => some (if whole then some (String.ofList acc.reverse) else none, rest)
    | '\\' :: 'u' :: rest => do
      let (n, rest) ← hexFour? rest
      if 0xD800 ≤ n ∧ n ≤ 0xDBFF then
        match lowHalf? rest with
        | some (low, rest') =>
          readString fuel rest'
            (Char.ofNat (0x10000 + (n - 0xD800) * 1024 + (low - 0xDC00)) :: acc) whole
        | none => readString fuel rest acc false
      else if 0xDC00 ≤ n ∧ n ≤ 0xDFFF then readString fuel rest acc false
      else readString fuel rest (Char.ofNat n :: acc) whole
    | '\\' :: c :: rest => do
      readString fuel rest ((← escaped? c) :: acc) whole
    | c :: rest => if c.toNat < 0x20 then none else readString fuel rest (c :: acc) whole

def spanDigits : List Char → List Nat × List Char
  | [] => ([], [])
  | c :: cs =>
    match digit? c with
    | some d => let (ds, rest) := spanDigits cs; (d :: ds, rest)
    | none => ([], c :: cs)

/-- Adds digits to a significand while it fits 64 bits; the digits left over once it does not. -/
def accumulate : Nat → List Nat → Nat × List Nat
  | n, [] => (n, [])
  | n, d :: ds =>
    if n * 10 + d < 0x10000000000000000 then accumulate (n * 10 + d) ds else (n, d :: ds)

def readExponent (cs : List Char) : Option (Bool × Nat × List Char) :=
  let (negative, cs) :=
    match cs with
    | '+' :: rest => (false, rest)
    | '-' :: rest => (true, rest)
    | _ => (false, cs)
  match spanDigits cs with
  | ([], _) => none
  | (ds, rest) => some (negative, ds.foldl (fun n d => n * 10 + d) 0, rest)

def ofFloat : Option Binary64 → Json
  | some x => .float x
  | none => .unreadable

/-- The number with a significand, a power of ten found so far and an explicit exponent. An exponent
beyond 32 bits makes zero when it is negative or the significand is zero. -/
def withExponent (negative : Bool) (significand : Nat) (shift : Int) (expNegative : Bool)
    (e : Nat) : Json :=
  if 0x80000000 ≤ e then
    if significand ≠ 0 ∧ !expNegative then .unreadable else .float (Binary64.zero negative)
  else
    let power := if expNegative then shift - e else shift + e
    ofFloat
      (Binary64.ofDecimal negative significand (max (min power 0x7FFFFFFF) (-0x80000000)))

def readNumber (negative : Bool) (cs : List Char) : Option (Json × List Char) :=
  match spanDigits cs with
  | ([], _) => none
  | (0 :: _ :: _, _) => none
  | (ds, rest) =>
    let (significand, beyond) := accumulate 0 ds
    let shift : Int := beyond.length
    match rest with
    | '.' :: rest =>
      match spanDigits rest with
      | ([], _) => none
      | (fs, rest) =>
        let (significand, left) := accumulate significand fs
        let shift := shift - (fs.length - left.length : Nat)
        match rest with
        | 'e' :: rest | 'E' :: rest => do
          let (expNegative, e, rest) ← readExponent rest
          some (withExponent negative significand shift expNegative e, rest)
        | _ => some (ofFloat (Binary64.ofDecimal negative significand shift), rest)
    | 'e' :: rest | 'E' :: rest => do
      let (expNegative, e, rest) ← readExponent rest
      some (withExponent negative significand shift expNegative e, rest)
    | _ =>
      if beyond.length ≠ 0 then some (ofFloat (Binary64.ofDecimal negative significand shift), rest)
      else if !negative then some (.int significand, rest)
      else if significand ≠ 0 ∧ significand ≤ 0x8000000000000000 then
        some (.int (-(significand : Int)), rest)
      else some (ofFloat (Binary64.ofRatio true significand 1), rest)

mutual

/-- Reads one value inside `depth` containers. -/
def readValue : Nat → Nat → List Char → Option (Json × List Char)
  | 0, _, _ => none
  | fuel + 1, depth, cs =>
    match skipSpace cs with
    | 'n' :: 'u' :: 'l' :: 'l' :: rest => some (.null, rest)
    | 't' :: 'r' :: 'u' :: 'e' :: rest => some (.bool true, rest)
    | 'f' :: 'a' :: 'l' :: 's' :: 'e' :: rest => some (.bool false, rest)
    | '\x22' :: rest => do
      let (s, rest) ← readString (rest.length + 1) rest [] true
      some (match s with | some s => .str s | none => .unreadable, rest)
    | '-' :: rest => readNumber true rest
    | '[' :: rest =>
      match skipSpace rest with
      | ']' :: rest => some (if depth < maxDepth then .arr [] else .unreadable, rest)
      | _ => do
        let (items, rest) ← readItems fuel (depth + 1) rest
        some (if depth < maxDepth then .arr items else .unreadable, rest)
    | '\x7b' :: rest =>
      match skipSpace rest with
      | '\x7d' :: rest => some (if depth < maxDepth then .obj [] else .unreadable, rest)
      | _ => do
        let (members, rest) ← readMembers fuel (depth + 1) rest
        match members with
        | some members => some (if depth < maxDepth then .obj members else .unreadable, rest)
        | none => some (.unreadable, rest)
    | cs => readNumber false cs

def readItems : Nat → Nat → List Char → Option (List Json × List Char)
  | 0, _, _ => none
  | fuel + 1, depth, cs => do
    let (v, rest) ← readValue fuel depth cs
    match skipSpace rest with
    | ',' :: rest => do
      let (vs, rest) ← readItems fuel depth rest
      some (v :: vs, rest)
    | ']' :: rest => some ([v], rest)
    | _ => none

/-- Reads the members of an object and its closing brace. The members are `none` when a name holds
half a surrogate pair. -/
def readMembers : Nat → Nat → List Char → Option (Option (List (String × Json)) × List Char)
  | 0, _, _ => none
  | fuel + 1, depth, cs =>
    match skipSpace cs with
    | '\x22' :: rest => do
      let (name, rest) ← readString (rest.length + 1) rest [] true
      match skipSpace rest with
      | ':' :: rest => do
        let (v, rest) ← readValue fuel depth rest
        let (others, rest) ←
          match skipSpace rest with
          | ',' :: rest => readMembers fuel depth rest
          | '\x7d' :: rest => some (some [], rest)
          | _ => none
        match name, others with
        | some name, some others => some (some ((name, v) :: others), rest)
        | _, _ => some (none, rest)
      | _ => none
    | _ => none

end

def parse (cs : List Char) : Option Json := do
  let (v, rest) ← readValue (cs.length + 1) 0 cs
  match skipSpace rest with
  | [] => some v
  | _ => none

def parseText (s : String) : Option Json :=
  parse s.toList

end PacketReplay.Json
