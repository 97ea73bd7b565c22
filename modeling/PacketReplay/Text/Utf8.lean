/-!
# Bytes and UTF-8

Message bodies are byte lists. They are text exactly when they are well-formed UTF-8 (no overlong
form, no surrogate, nothing above U+10FFFF), which is the core library's own notion. Beside the
strict conversion there is a reader of one code point, used where a position inside a byte string
matters, and a lossy decoder that writes U+FFFD for each maximal ill-formed part.
-/

set_option autoImplicit false

namespace PacketReplay

abbrev Bytes := List UInt8

def textBytes (s : String) : Bytes :=
  s.toUTF8.data.toList

def bytesText? (b : Bytes) : Option String :=
  String.fromUTF8? ⟨b.toArray⟩

namespace Utf8

inductive Front where
  /-- A code point and the number of bytes that encode it. -/
  | char (c : Char) (size : Nat)
  /-- An ill-formed part and its size: the longest proper start of a code point, or one byte. -/
  | broken (size : Nat)
  | done
deriving DecidableEq

def isTail (b : UInt8) : Bool :=
  0x80 ≤ b && b ≤ 0xBF

/-- The second bytes that may follow a lead byte, as bounds, with the code point's size; `none`
when the byte leads no longer code point. -/
def lead? (b : UInt8) : Option (Nat × UInt8 × UInt8) :=
  if 0xC2 ≤ b && b ≤ 0xDF then some (2, 0x80, 0xBF)
  else if b == 0xE0 then some (3, 0xA0, 0xBF)
  else if b == 0xED then some (3, 0x80, 0x9F)
  else if 0xE1 ≤ b && b ≤ 0xEF then some (3, 0x80, 0xBF)
  else if b == 0xF0 then some (4, 0x90, 0xBF)
  else if 0xF1 ≤ b && b ≤ 0xF3 then some (4, 0x80, 0xBF)
  else if b == 0xF4 then some (4, 0x80, 0x8F)
  else none

def tailBits (b : UInt8) : Nat :=
  b.toNat % 64

def front : Bytes → Front
  | [] => .done
  | a :: rest =>
    if a < 0x80 then .char (Char.ofNat a.toNat) 1
    else match lead? a with
      | none => .broken 1
      | some (size, low, high) =>
        match rest with
        | b :: rest' =>
          if low ≤ b && b ≤ high then
            if size == 2 then .char (Char.ofNat (a.toNat % 32 * 64 + tailBits b)) 2
            else match rest' with
              | c :: rest'' =>
                if isTail c then
                  if size == 3 then
                    .char (Char.ofNat ((a.toNat % 16 * 64 + tailBits b) * 64 + tailBits c)) 3
                  else match rest'' with
                    | d :: _ =>
                      if isTail d then
                        .char (Char.ofNat
                          (((a.toNat % 8 * 64 + tailBits b) * 64 + tailBits c) * 64 + tailBits d)) 4
                      else .broken 3
                    | [] => .broken 3
                else .broken 2
              | [] => .broken 2
          else .broken 1
        | [] => .broken 1

def lossyFrom : Nat → Bytes → List Char → List Char
  | 0, _, acc => acc.reverse
  | fuel + 1, b, acc =>
    match front b with
    | .done => acc.reverse
    | .char c size => lossyFrom fuel (b.drop size) (c :: acc)
    | .broken size => lossyFrom fuel (b.drop size) ('\uFFFD' :: acc)

/-- The text of a byte sequence, with U+FFFD for each ill-formed part. -/
def lossy (b : Bytes) : String :=
  String.ofList (lossyFrom b.length b [])

def charBytes (c : Char) : Bytes :=
  let n := c.toNat
  if n < 0x80 then [n.toUInt8]
  else if n < 0x800 then [(0xC0 + n / 64).toUInt8, (0x80 + n % 64).toUInt8]
  else if n < 0x10000 then
    [(0xE0 + n / 4096).toUInt8, (0x80 + n / 64 % 64).toUInt8, (0x80 + n % 64).toUInt8]
  else
    [(0xF0 + n / 262144).toUInt8, (0x80 + n / 4096 % 64).toUInt8, (0x80 + n / 64 % 64).toUInt8,
      (0x80 + n % 64).toUInt8]

end Utf8

end PacketReplay
