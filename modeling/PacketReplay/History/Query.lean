import PacketReplay.Error

set_option autoImplicit false

namespace PacketReplay

structure Page where
  limit : Nat
  offset : Nat
  limit_le : limit ≤ maxPageLimit
deriving DecidableEq

namespace Page

def ofInts (limit offset : Int) : Except PacketError Page :=
  if limit < 0 then .error (.invalidArgument (.negativeLimit limit))
  else if h : limit.toNat ≤ maxPageLimit then
    if offset < 0 then .error (.invalidArgument (.negativeOffset offset))
    else .ok ⟨limit.toNat, offset.toNat, h⟩
  else .error (.invalidArgument (.limitTooLarge limit))

def first : Page :=
  ⟨defaultPageLimit, 0, by decide⟩

end Page

/-- Which packets to list; a field that is not set selects all. -/
structure Filter where
  method : Option Method
  /-- A part of the URL, compared without regard to the case of ASCII letters. -/
  urlContains : Option String
  statusMin : Option UInt16
  statusMax : Option UInt16
  origin : Option OriginKind
deriving DecidableEq

def Filter.all : Filter :=
  ⟨none, none, none, none, none⟩

inductive Order where
  | ascending
  | descending
deriving DecidableEq

namespace Order

/-- The order a text names: `id`, `id asc` or `id desc` in any case. -/
def parse (text : String) : Except PacketError Order :=
  match (words text).map String.toLower with
  | ["id"] => .ok ascending
  | ["id", "asc"] => .ok ascending
  | ["id", "desc"] => .ok descending
  | _ => .error (.invalidArgument (.unknownOrder text))

def name : Order → String
  | ascending => "id_asc"
  | descending => "id_desc"

end Order

structure Listing where
  packets : List Summary
  /-- How many packets match, on this page or not. -/
  totalCount : UInt64
  hasMore : Bool
  limit : UInt64
  offset : UInt64
deriving DecidableEq

end PacketReplay
