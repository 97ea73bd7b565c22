import PacketReplay.Text.Utf8

set_option autoImplicit false

namespace PacketReplay.Percent

def upperHexDigit (n : Nat) : Char :=
  if n < 10 then Char.ofNat (48 + n) else Char.ofNat (55 + n)

def encodeByte (b : UInt8) : List Char :=
  ['%', upperHexDigit (b.toNat / 16), upperHexDigit (b.toNat % 16)]

def isControl (c : Char) : Bool :=
  c.toNat < 0x20 || 0x7E < c.toNat

def inFragment (c : Char) : Bool :=
  isControl c || [' ', '\x22', '<', '>', '\x60'].contains c

def inPath (c : Char) : Bool :=
  inFragment c || ['#', '?', '\x7b', '\x7d'].contains c

def inUserinfo (c : Char) : Bool :=
  inPath c || ['/', ':', ';', '=', '@', '[', '\\', ']', '^', '|'].contains c

def inQuery (c : Char) : Bool :=
  isControl c || [' ', '\x22', '#', '<', '>'].contains c

def inSpecialQuery (c : Char) : Bool :=
  inQuery c || c == '\''

def encode (set : Char → Bool) (cs : List Char) : String :=
  String.ofList (cs.flatMap fun c => if set c then (Utf8.charBytes c).flatMap encodeByte else [c])

def hexValue? (b : UInt8) : Option UInt8 :=
  if 48 ≤ b && b ≤ 57 then some (b - 48)
  else if 65 ≤ b && b ≤ 70 then some (b - 55)
  else if 97 ≤ b && b ≤ 102 then some (b - 87)
  else none

/-- The bytes that a percent-encoded text stands for; a percent sign without two digits stands for
itself. -/
def decode : Bytes → Bytes
  | 37 :: a :: b :: rest =>
    match hexValue? a, hexValue? b with
    | some x, some y => (x * 16 + y) :: decode rest
    | _, _ => 37 :: decode (a :: b :: rest)
  | c :: rest => c :: decode rest
  | [] => []
termination_by bytes => bytes.length

end PacketReplay.Percent
