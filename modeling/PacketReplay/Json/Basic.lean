import PacketReplay.Number.Binary64

/-!
# JSON values

A JSON value with its members in the order they are written; a name may occur twice. Integers are
exact, other numbers are doubles. A text can be well formed as JSON and still stand for no value:
a number beyond the doubles, a string with half a surrogate pair, or nesting past the depth limit.
Such a part is `unreadable`. It does no harm where it is skipped and fails where it is used.
-/

set_option autoImplicit false

namespace PacketReplay

inductive Json where
  | null
  | bool (b : Bool)
  | int (n : Int)
  | float (x : Binary64)
  | str (s : String)
  | arr (items : List Json)
  | obj (members : List (String × Json))
  | unreadable

namespace Json

mutual

def readable : Json → Bool
  | .unreadable => false
  | .arr items => readableItems items
  | .obj members => readableMembers members
  | _ => true

def readableItems : List Json → Bool
  | [] => true
  | v :: vs => readable v && readableItems vs

def readableMembers : List (String × Json) → Bool
  | [] => true
  | (_, v) :: ms => readable v && readableMembers ms

end

/-- Adds a member to members sorted by name, in place of one of the same name. -/
def insertMember (name : String) (v : Json) : List (String × Json) → List (String × Json)
  | [] => [(name, v)]
  | (k, w) :: ms =>
    if name = k then (name, v) :: ms
    else if name < k then (name, v) :: (k, w) :: ms
    else (k, w) :: insertMember name v ms

mutual

/-- The value with every object's members sorted by name, the last of several equal names kept:
what is left of an object whose members are looked up by name. -/
def canonical : Json → Json
  | .arr items => .arr (canonicalItems items)
  | .obj members => .obj (canonicalMembers members [])
  | v => v

def canonicalItems : List Json → List Json
  | [] => []
  | v :: vs => canonical v :: canonicalItems vs

def canonicalMembers : List (String × Json) → List (String × Json) → List (String × Json)
  | [], acc => acc
  | (k, v) :: ms, acc => canonicalMembers ms (insertMember k (canonical v) acc)

end

/-- The value of a member, the last one when the name occurs again. -/
def get? (v : Json) (name : String) : Option Json :=
  match v with
  | .obj members => (members.reverse.find? fun m => m.1 == name).map Prod.snd
  | _ => none

def text? : Json → Option String
  | .str s => some s
  | _ => none

def int? : Json → Option Int
  | .int n => some n
  | _ => none

def bool? : Json → Option Bool
  | .bool b => some b
  | _ => none

def items? : Json → Option (List Json)
  | .arr items => some items
  | _ => none

end Json

end PacketReplay
