import PacketReplay.Pattern.Property
import PacketReplay.Text.Utf8
import PacketReplay.Url.NameMapping
import PacketReplay.Url.Normal
import PacketReplay.Url.Punycode

set_option autoImplicit false

namespace PacketReplay.Domain

def isForbidden (c : Char) : Bool :=
  c.toNat ≤ 0x20 || c.toNat = 0x7F ||
    ['%', '#', '/', ':', '<', '>', '?', '@', '[', '\\', ']', '^', '|'].contains c

def validChars : Pattern.CharSet :=
  Pattern.Unicode.unpackSet validPacked

def findMapped : Nat → Nat → Nat → List Nat → Option (List Nat)
  | fuel + 1, origin, n, gap :: size :: count :: rest =>
    let first := origin + gap
    if n < first then none
    else if n ≤ first + size then
      some (if count = 1 then [rest.headD 0 + (n - first)] else rest.take count)
    else findMapped fuel (first + size + 1) n (rest.drop count)
  | _, _, _, _ => none

def mappedNumbers : List Nat :=
  Packed.unpack mappedPacked

def mapped? (c : Char) : Option (List Char) :=
  if validChars.has c.toNat then some [c]
  else
    (findMapped mappedNumbers.length 0 c.toNat mappedNumbers).map fun ns => ns.map Char.ofNat

def isMark (c : Char) : Bool :=
  (Pattern.Unicode.categories ["mn", "mc", "me"]).has c.toNat

/-- Whether every joiner follows a mark that it can change. -/
def joinersFit : Option Char → List Char → Bool
  | _, [] => true
  | before, c :: cs =>
    (if c.toNat = 0x200C ∨ c.toNat = 0x200D then before.any fun b => orderOf b == 9 else true) &&
      joinersFit (some c) cs

/-- Whether the characters of a label are in order. Rules for the direction of writing, and for
letters that join without such a mark, are not looked at. -/
def isOrderly (label : List Char) : Bool :=
  !label.head?.any isMark && label.all (fun c => validChars.has c.toNat) && joinersFit none label

def isAscii (c : Char) : Bool :=
  c.toNat < 128

/-- The ASCII form of a label, which may be in that form already. -/
def labelAscii? (label : List Char) : Option (List Char) :=
  match label with
  | 'x' :: 'n' :: '-' :: '-' :: rest => do
    let inner ← Punycode.decode? rest
    if inner.all isAscii ∨ !isOrderly inner ∨ composedForm inner ≠ inner ∨
        Punycode.encode inner ≠ rest then none
    else some label
  | _ =>
    if label.all isAscii then some label
    else if isOrderly label then some ("xn--".toList ++ Punycode.encode label)
    else none

def toAscii? (b : Bytes) : Option String := do
  let text ← bytesText? b
  let cs := composedForm (← text.toList.mapM mapped?).flatten
  if cs.any isForbidden then none
  let labels ← (cs.splitOn '.').mapM labelAscii?
  some (String.ofList (List.intercalate ['.'] labels))

end PacketReplay.Domain
