import PacketReplay.Text.Basic
import PacketReplay.Text.Utf8

set_option autoImplicit false

namespace PacketReplay

structure Header where
  name : String
  value : String
deriving DecidableEq

abbrev Headers := List Header

def Header.named (name : String) (h : Header) : Bool :=
  sameIgnoringCase h.name name

namespace Headers

def add (hs : Headers) (name value : String) : Headers :=
  hs ++ [⟨name, value⟩]

def value? (hs : Headers) (name : String) : Option String :=
  (hs.find? (Header.named name)).map Header.value

def values (hs : Headers) (name : String) : List String :=
  (hs.filter (Header.named name)).map Header.value

def has (hs : Headers) (name : String) : Bool :=
  hs.any (Header.named name)

/-- Overwrites the first line of a name, spelling included; `none` when the name does not occur. -/
def replaceFirst? : Headers → String → String → Option Headers
  | [], _, _ => none
  | h :: hs, name, value =>
    if h.named name then some (⟨name, value⟩ :: hs)
    else (replaceFirst? hs name value).map (h :: ·)

def without (hs : Headers) (name : String) : Headers :=
  hs.filter fun h => !h.named name

def keepFirst : Headers → String → Headers
  | [], _ => []
  | h :: hs, name => if h.named name then h :: without hs name else h :: keepFirst hs name

/-- Sets a name to one value: in place of the first line of that name, the others dropped, or at
the end when there is none. -/
def set (hs : Headers) (name value : String) : Headers :=
  match hs.replaceFirst? name value with
  | some hs' => keepFirst hs' name
  | none => hs.add name value

end Headers

inductive HeaderAction where
  | add (value : String)
  | replaceFirst (value : String)
  | keepFirst
  | remove
  | first
  | all
  | has
deriving DecidableEq

structure HeaderOp where
  name : String
  action : HeaderAction
deriving DecidableEq

inductive HeaderAnswer where
  | done
  | holds (b : Bool)
  | count (n : Nat)
  | value (v : Option String)
  | values (vs : List String)
deriving DecidableEq

namespace Headers

def perform (hs : Headers) (op : HeaderOp) : HeaderAnswer × Headers :=
  match op.action with
  | .add value => (.done, hs.add op.name value)
  | .replaceFirst value =>
    match hs.replaceFirst? op.name value with
    | some changed => (.holds true, changed)
    | none => (.holds false, hs)
  | .keepFirst => (.done, hs.keepFirst op.name)
  | .remove => (.count (hs.length - (hs.without op.name).length), hs.without op.name)
  | .first => (.value (hs.value? op.name), hs)
  | .all => (.values (hs.values op.name), hs)
  | .has => (.holds (hs.has op.name), hs)

def performAll : Headers → List HeaderOp → List HeaderAnswer × Headers
  | hs, [] => ([], hs)
  | hs, op :: ops =>
    let (answer, next) := hs.perform op
    let (answers, last) := next.performAll ops
    (answer :: answers, last)

end Headers

def isTokenByte (b : UInt8) : Bool :=
  (48 ≤ b && b ≤ 57) || (65 ≤ b && b ≤ 90) || (97 ≤ b && b ≤ 122) ||
    (textBytes "!#$%&'*+-.^_\x60|~").contains b

def maxHeaderName : Nat := 65535

def isHeaderName (name : String) : Bool :=
  let b := textBytes name
  b != [] && b.length ≤ maxHeaderName && b.all isTokenByte

/-- A byte that the value of a header may have: a tab, or anything else but control characters. -/
def isValueByte (b : UInt8) : Bool :=
  b == 9 || (32 ≤ b && b != 127)

def isHeaderValue (value : String) : Bool :=
  (textBytes value).all isValueByte

end PacketReplay
