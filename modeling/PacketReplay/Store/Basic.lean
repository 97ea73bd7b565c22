import PacketReplay.Store.Query

/-!
# The packet store

Packets are only ever added. The table is what counts; the most recent records are also kept in
memory, and a record found there is answered without looking at the table. Times are cut to whole
milliseconds first, so that both agree.
-/

set_option autoImplicit false

namespace PacketReplay

structure Store where
  /-- The table; there is none after another program has dropped it. -/
  table : Option Table
  /-- The recent records, the oldest first. -/
  recent : List Record
  capacity : Nat
deriving DecidableEq

namespace Store

def noTable : String := "no such table: packets"

def empty (capacity : Nat) : Store :=
  ⟨some Table.empty, [], capacity⟩

/-- The store as another process finds it: with the table, made anew if it is gone, and nothing in
memory. -/
def reopenedWith (capacity : Nat) (s : Store) : Store :=
  ⟨some (s.table.getD Table.empty), [], capacity⟩

def reopened (s : Store) : Store :=
  s.reopenedWith s.capacity

/-- Records with one more at the end, the oldest dropped when there are too many. -/
def remember (capacity : Nat) (recent : List Record) (r : Record) : List Record :=
  let all := recent ++ [r]
  all.drop (all.length - capacity)

def insert (s : Store) (d : Draft) : Except PacketError (Record × Store) :=
  match s.table with
  | none => .error (.storage ["inserting packet", noTable])
  | some t =>
    match t.insert d.cut with
    | none => .error (.storage ["inserting packet", "no row numbers are left"])
    | some (number, t) =>
      .ok (d.cut.withId (UInt64.ofNat number.toNat), { s with table := some t })

/-- Adds a packet to the table, unless the database has a reason of its own to refuse it. -/
def insertUnless (refusal : Option (List String)) (s : Store) (d : Draft) :
    Except PacketError (Record × Store) :=
  match refusal with
  | some causes => .error (.storage causes)
  | none => s.insert d

def mirror (s : Store) (r : Record) : Store :=
  { s with recent := remember s.capacity s.recent r }

/-- Adds a packet, with its id, unless the database refuses it: first to the table and then in
memory. -/
def appendUnless (refusal : Option (List String)) (s : Store) (d : Draft) :
    Except PacketError (PacketId × Store) :=
  match s.insertUnless refusal d with
  | .error e => .error e
  | .ok (r, s) => .ok (r.id, s.mirror r)

def append (s : Store) (d : Draft) : Except PacketError (PacketId × Store) :=
  s.appendUnless none d

def maxUInt64 : Nat := 0xFFFFFFFFFFFFFFFF

/-- Whether packets follow after those of a page: a sum beyond 64 bits is cut to the greatest. -/
def followedBy (offset shown total : Nat) : Bool :=
  min (offset + shown) maxUInt64 < total

def list (s : Store) (page : Page) (f : Filter) (o : Order) : Except PacketError Listing :=
  match s.table with
  | none => .error (.storage [noTable])
  | some t =>
    match t.countWhere f.tests f.params,
      t.pageWhere f.tests o (f.params ++ [.int page.limit, .int page.offset]) with
    | some total, some rows =>
      match rows.mapM Row.summary with
      | .error cause => .error (.storage [cause])
      | .ok packets =>
        .ok {
          packets
          totalCount := total.toUInt64
          hasMore := followedBy page.offset packets.length total
          limit := page.limit.toUInt64
          offset := page.offset.toUInt64 }
    | _, _ => .error (.storage ["wrong number of parameters"])

def rowNumber (id : PacketId) : Int :=
  if id.toNat < 0x8000000000000000 then id.toNat else id.toNat - 0x10000000000000000

def getStored (s : Store) (id : PacketId) (includeBody : Bool) : Except PacketError Record :=
  match s.table with
  | none => .error (.storage [noTable])
  | some t =>
    match t.find? (rowNumber id) with
    | none => .error (.notFound id)
    | some row =>
      match row.record includeBody with
      | .error cause => .error (.storage [cause])
      | .ok r => .ok r

def inMemory? (s : Store) (id : PacketId) : Option Record :=
  s.recent.reverse.find? fun r => r.id == id

/-- What a look for a record comes to, in memory or in the table; `none` when it is not in memory. -/
def look (s : Store) (inMemory : Bool) (id : PacketId) (includeBody : Bool) :
    Option (Except PacketError Record) :=
  if inMemory then (s.inMemory? id).map fun r => .ok (r.seen includeBody)
  else some (s.getStored id includeBody)

/-- A record, with its bodies if they are wanted: from memory, or else from the table. -/
def get (s : Store) (id : PacketId) (includeBody : Bool) : Except PacketError Record :=
  (s.look true id includeBody).getD (s.getStored id includeBody)

def count (s : Store) : Except PacketError UInt64 :=
  match s.table with
  | none => .error (.storage [noTable])
  | some t => .ok t.rows.length.toUInt64

end Store

end PacketReplay
