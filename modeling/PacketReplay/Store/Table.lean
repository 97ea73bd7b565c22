import PacketReplay.Store.Row

set_option autoImplicit false

namespace PacketReplay

structure Table where
  rows : List Row
  lastGiven : Nat
deriving DecidableEq

namespace Table

def empty : Table := ⟨[], 0⟩

/-- The greatest number of a row or given out. -/
def greatest (t : Table) : Int :=
  t.rows.foldl (fun n r => max n r.id) (t.lastGiven : Int)

/-- Adds the row of a draft, with its number; `none` when all numbers are used up. -/
def insert (t : Table) (d : Draft) : Option (Int × Table) :=
  let id := t.greatest + 1
  if id ≤ Cell.maxInt then some (id, ⟨t.rows ++ [Row.ofDraft id d], id.toNat⟩) else none

def find? (t : Table) (id : Int) : Option Row :=
  t.rows.find? fun r => r.id == id

def delete (t : Table) (id : Int) : Nat × Table :=
  let kept := t.rows.filter fun r => r.id != id
  (t.rows.length - kept.length, { t with rows := kept })

def place (row : Row) : List Row → List Row
  | [] => [row]
  | r :: rs => if row.id < r.id then row :: r :: rs else r :: place row rs

/-- Gives a row another number, with how many rows were changed; `none` when the value is no whole
number or another row has it. -/
def renumber (t : Table) (id : Int) (value : Cell) : Option (Nat × Table) :=
  match t.find? id with
  | none => some (0, t)
  | some row =>
    match Cell.convert .integer value with
    | .int n =>
      if n = id then some (1, t)
      else if (t.find? n).isSome then none
      else some (1, { t with rows := place { row with id := n } (t.delete id).2.rows })
    | _ => none

/-- Changes a cell of a row, with how many rows were changed; `none` when the column may not hold
the value. -/
def change (t : Table) (id : Int) (column : Column) (value : Cell) : Option (Nat × Table) :=
  match t.find? id with
  | none => some (0, t)
  | some _ =>
    if value = .null ∧ !column.isNullable then none
    else
      let value := Cell.convert column.affinity value
      let rows := t.rows.map fun r => if r.id = id then r.set value column else r
      some (1, { t with rows := rows })

end Table

end PacketReplay
