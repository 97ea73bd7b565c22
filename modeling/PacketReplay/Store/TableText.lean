import PacketReplay.Store.Table
import PacketReplay.Text.Base64

set_option autoImplicit false

namespace PacketReplay

namespace Cell

def toJson : Cell → Json
  | null => .null
  | int n => .int n
  | real x => .arr [.bool x.negative, Json.ofNat x.significand, .int x.exponent]
  | text s => .str s
  | blob b => .obj [("base64", .str (Base64.encode b))]

def ofJson? : Json → Option Cell
  | .null => some null
  | .int n => some (int n)
  | .arr [.bool negative, .int significand, .int exponent] =>
    some (real ⟨negative, significand.toNat, exponent⟩)
  | .str s => some (text s)
  | .obj [("base64", .str s)] => (Base64.decode? s).map blob
  | _ => none

end Cell

namespace Row

def toJson (r : Row) : Json :=
  .arr (.int r.id :: Column.all.map fun c => (r.get c).toJson)

def blank (id : Int) : Row :=
  ⟨id, .null, .null, .null, .null, .null, .null, .null, .null, .null, .null, .null⟩

def ofJson? : Json → Option Row
  | .arr (.int id :: cells) =>
    if cells.length = Column.all.length then do
      let cells ← cells.mapM Cell.ofJson?
      some ((Column.all.zip cells).foldl (fun r c => r.set c.2 c.1) (blank id))
    else none
  | _ => none

end Row

namespace Table

def toText (t : Table) : String :=
  (Json.obj [("last_given", .int t.lastGiven), ("rows", .arr (t.rows.map Row.toJson))]).compact

def ofText? (text : String) : Option Table := do
  let v ← Json.parseText text
  let lastGiven ← v.get? "last_given" >>= Json.int?
  let rows ← v.get? "rows" >>= Json.list? Row.ofJson?
  some ⟨rows, lastGiven.toNat⟩

end Table

end PacketReplay
