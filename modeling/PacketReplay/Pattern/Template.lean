import PacketReplay.Text.Utf8
import PacketReplay.Pattern.Parser

set_option autoImplicit false

namespace PacketReplay.Pattern

inductive Piece where
  | byte (b : UInt8)
  | number (n : Nat)
  | name (s : String)

/-- The number that digits with an optional plus sign write, below `2 ^ 64`. -/
def groupNumber? (cs : List Char) : Option Nat :=
  let digits := match cs with
    | '+' :: rest => rest
    | _ => cs
  if digits.isEmpty ∨ !digits.all Char.isDigit then none
  else
    let n := digits.foldl (fun n c => n * 10 + (c.toNat - 48)) 0
    if n < 0x10000000000000000 then some n else none

def reference (text : String) : Piece :=
  match groupNumber? text.toList with
  | some n => .number n
  | none => .name text

def isReferenceByte (b : UInt8) : Bool :=
  (48 ≤ b && b ≤ 57) || (65 ≤ b && b ≤ 90) || b == 95 || (97 ≤ b && b ≤ 122)

/-- Reads a reference after its dollar sign, with how many bytes it takes. -/
def readReference (b : Bytes) : Option (Piece × Nat) :=
  match b with
  | 123 :: rest =>
    let name := rest.takeWhile (· != 125)
    if name.length < rest.length then
      (bytesText? name).map fun text => (reference text, name.length + 2)
    else none
  | _ =>
    let name := b.takeWhile isReferenceByte
    if name.isEmpty then none
    else (bytesText? name).map fun text => (reference text, name.length)

/-- The pieces of a template, skipping the bytes of a reference that has been read. -/
def templateFrom : Nat → Bytes → List Piece
  | _, [] => []
  | skip + 1, _ :: rest => templateFrom skip rest
  | 0, b :: rest =>
    if b = 36 then
      match rest with
      | 36 :: _ => .byte 36 :: templateFrom 1 rest
      | _ =>
        match readReference rest with
        | some (piece, size) => piece :: templateFrom size rest
        | none => .byte 36 :: templateFrom 0 rest
    else .byte b :: templateFrom 0 rest

def template (b : Bytes) : List Piece :=
  templateFrom 0 b

end PacketReplay.Pattern
