import PacketReplay.Store.Table

/-!
# Queries on the packet table

A filter is made into tests, each with a place for one parameter, and a list of parameters that
take the places from the left. A page has two places more, after those of the tests: its limit and
its offset. A test says nothing of an empty cell; only rows that pass every test are kept.
-/

set_option autoImplicit false

namespace PacketReplay

inductive Test where
  | methodIs
  | urlHas
  | statusAtLeast
  | statusAtMost
  | originKindIs
deriving DecidableEq

def containsText (needle : List Char) : List Char → Bool
  | [] => needle.isEmpty
  | c :: cs => needle.isPrefixOf (c :: cs) || containsText needle cs

def Cell.unlessNull (c : Cell) (b : Bool) : Option Bool :=
  if c = .null then none else some b

namespace Test

/-- What a test with its parameter says of a row, judged by its cells alone. -/
def outcome (row : Row) : Test → Cell → Option Bool
  | methodIs, .text s => row.method.unlessNull (row.method == .text s)
  | urlHas, .text needle =>
    match row.url with
    | .text url => some (containsText needle.toList url.toLower.toList)
    | url => url.unlessNull false
  | statusAtLeast, .int n => row.status.unlessNull (row.status.atLeast n)
  | statusAtMost, .int n => row.status.unlessNull (row.status.atMost n)
  | originKindIs, .text s => row.originKind.unlessNull (row.originKind == .text s)
  | _, _ => none

/-- Gives the parameters to the tests from the left, with those left over; `none` when there are
too few. -/
def bind : List Test → List Cell → Option (List (Test × Cell) × List Cell)
  | [], params => some ([], params)
  | _ :: _, [] => none
  | t :: ts, p :: ps => (bind ts ps).map fun (bound, rest) => ((t, p) :: bound, rest)

end Test

namespace Filter

def tests (f : Filter) : List Test :=
  (f.method.map fun _ => Test.methodIs).toList ++
    (f.urlContains.map fun _ => Test.urlHas).toList ++
    (f.statusMin.map fun _ => Test.statusAtLeast).toList ++
    (f.statusMax.map fun _ => Test.statusAtMost).toList ++
    (f.origin.map fun _ => Test.originKindIs).toList

/-- The parameters of a filter's query, in order. The part of the URL is put in lower case. -/
def params (f : Filter) : List Cell :=
  (f.method.map fun m => Cell.text m.name).toList ++
    (f.urlContains.map fun part => Cell.text part.toLower).toList ++
    (f.statusMin.map fun s => Cell.int s.toNat).toList ++
    (f.statusMax.map fun s => Cell.int s.toNat).toList ++
    (f.origin.map fun k => Cell.text k.name).toList

end Filter

namespace Table

def selected (t : Table) (bound : List (Test × Cell)) : List Row :=
  t.rows.filter fun row => bound.all fun b => b.1.outcome row b.2 == some true

/-- How many rows pass every test; `none` when the parameters do not fit the places. -/
def countWhere (t : Table) (tests : List Test) (params : List Cell) : Option Nat :=
  match Test.bind tests params with
  | some (bound, []) => some (t.selected bound).length
  | _ => none

def inOrder (o : Order) (rows : List Row) : List Row :=
  match o with
  | .ascending => rows
  | .descending => rows.reverse

/-- A window of rows. A negative limit is none, a negative offset is zero. -/
def window (limit offset : Int) (rows : List Row) : List Row :=
  let rest := rows.drop offset.toNat
  if limit < 0 then rest else rest.take limit.toNat

/-- The rows that pass every test, in an order, cut to the window that the last two parameters ask
for; `none` when the parameters do not fit the places. -/
def pageWhere (t : Table) (tests : List Test) (o : Order) (params : List Cell) :
    Option (List Row) :=
  match Test.bind tests params with
  | some (bound, [.int limit, .int offset]) =>
    some (window limit offset (inOrder o (t.selected bound)))
  | _ => none

end Table

end PacketReplay
