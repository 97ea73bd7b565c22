import PacketReplay.History.Query

set_option autoImplicit false

namespace PacketReplay

structure HistoryParams where
  limit : Option Int
  offset : Option Int
  method : Option String
  urlContains : Option String
  statusMin : Option Int
  statusMax : Option Int
  origin : Option String
  order : Option String
deriving DecidableEq

namespace HistoryParams

def page (p : HistoryParams) : Except PacketError Page :=
  Page.ofInts (p.limit.getD defaultPageLimit) (p.offset.getD 0)

def methodFilter (p : HistoryParams) : Except PacketError (Option Method) :=
  match p.method with
  | none => .ok none
  | some text =>
    match Method.parse text with
    | .ok m => .ok (some m)
    | .error name => .error (.invalidArgument (.unknownMethod name))

/-- The kind of origin to select; blank text selects all. -/
def originFilter (p : HistoryParams) : Except PacketError (Option OriginKind) :=
  match p.origin.map trim with
  | none => .ok none
  | some text =>
    if text = "" then .ok none
    else if sameIgnoringCase text "captured" then .ok (some .captured)
    else if sameIgnoringCase text "resend" then .ok (some .resend)
    else .error (.invalidArgument (.unknownOrigin text))

def statusBound (bound : String) : Option Int → Except PacketError (Option UInt16)
  | none => .ok none
  | some n =>
    if 0 ≤ n ∧ n ≤ 999 then .ok (some n.toNat.toUInt16)
    else .error (.invalidArgument (.statusBound bound n))

/-- The filter asked for. An empty part of the URL selects all. -/
def filter (p : HistoryParams) : Except PacketError Filter := do
  let method ← p.methodFilter
  let origin ← p.originFilter
  let low ← statusBound "status_min" p.statusMin
  let high ← statusBound "status_max" p.statusMax
  match low, high with
  | some low, some high =>
    if high < low then
      throw (.invalidArgument (.emptyStatusRange low.toNat high.toNat))
  | _, _ => pure ()
  return { method, urlContains := p.urlContains.filter (· ≠ ""), statusMin := low,
           statusMax := high, origin }

def sortOrder (p : HistoryParams) : Except PacketError Order :=
  match p.order with
  | none => .ok .ascending
  | some text => Order.parse text

/-- The page, the filter and the order asked for; the first fault in this order. -/
def query (p : HistoryParams) : Except PacketError (Page × Filter × Order) := do
  let page ← p.page
  let filter ← p.filter
  let order ← p.sortOrder
  return (page, filter, order)

end HistoryParams

end PacketReplay
