import PacketReplay.Json.Basic

/-!
# Decoding JSON into typed values

A structure is written as an object with its fields by name, or as an array of its fields in order.
In an object, names that are not fields are skipped and a field given twice is refused. What a
missing field means differs: an optional field may be left out of an object but not of an array,
while a field with a default may be left out of both.

Decoders answer `none` when the value does not decode; the reason is nowhere reported.
-/

set_option autoImplicit false

namespace PacketReplay.Json

inductive Slot where
  | given (v : Json)
  | unnamed
  | pastEnd

namespace Slot

def required {α : Type} (decode : Json → Option α) : Slot → Option α
  | .given v => decode v
  | _ => none

def nullable {α : Type} (decode : Json → Option α) : Json → Option (Option α)
  | .null => some none
  | v => (decode v).map some

/-- A field that may be null, and absent from an object. -/
def optional {α : Type} (decode : Json → Option α) : Slot → Option (Option α)
  | .given v => nullable decode v
  | .unnamed => some none
  | .pastEnd => none

def withDefault {α : Type} (decode : Json → Option α) (default : α) : Slot → Option α
  | .given v => decode v
  | _ => some default

/-- A field that may be null or absent anywhere. -/
def optionalOrAbsent {α : Type} (decode : Json → Option α) (slot : Slot) : Option (Option α) :=
  slot.withDefault (nullable decode) none

end Slot

def occurrences (name : String) (members : List (String × Json)) : List Json :=
  (members.filter fun m => m.1 == name).map Prod.snd

/-- The slot of one field among an object's members; `none` when it is given twice. -/
def memberSlot (members : List (String × Json)) (name : String) : Option Slot :=
  match occurrences name members with
  | [] => some .unnamed
  | [v] => some (.given v)
  | _ => none

/-- The slots of an array's items, one per field; `none` when there are more items than fields. -/
def itemSlots : List String → List Json → Option (List Slot)
  | [], [] => some []
  | [], _ :: _ => none
  | _ :: names, [] => (itemSlots names []).map (.pastEnd :: ·)
  | _ :: names, v :: vs => (itemSlots names vs).map (.given v :: ·)

def slots (names : List String) : Json → Option (List Slot)
  | .obj members => names.mapM (memberSlot members)
  | .arr items => itemSlots names items
  | _ => none

def list? {α : Type} (decode : Json → Option α) : Json → Option (List α)
  | .arr items => items.mapM decode
  | _ => none

def intIn? (low high : Int) : Json → Option Int
  | .int n => if low ≤ n ∧ n ≤ high then some n else none
  | _ => none

def int64? : Json → Option Int :=
  intIn? (-0x8000000000000000) 0x7FFFFFFFFFFFFFFF

def natBelow? (bits : Nat) (v : Json) : Option Nat :=
  (intIn? 0 (Nat.pow 2 bits - 1) v).map Int.toNat

def uint16? (v : Json) : Option UInt16 :=
  (natBelow? 16 v).map Nat.toUInt16

def uint32? (v : Json) : Option UInt32 :=
  (natBelow? 32 v).map Nat.toUInt32

def uint64? (v : Json) : Option UInt64 :=
  (natBelow? 64 v).map Nat.toUInt64

/-- The name of a constant: a string, or an object with that one member and the value null. -/
def constantName? : Json → Option String
  | .str s => some s
  | .obj [(s, .null)] => some s
  | _ => none

def ofNat (n : Nat) : Json :=
  .int n

def ofOption {α : Type} (encode : α → Json) : Option α → Json
  | some a => encode a
  | none => .null

def memberIfSome {α : Type} (name : String) (encode : α → Json) : Option α → List (String × Json)
  | some a => [(name, encode a)]
  | none => []

end PacketReplay.Json
