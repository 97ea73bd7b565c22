import PacketReplay.History.Params
import PacketReplay.Packet.Codec

set_option autoImplicit false

namespace PacketReplay

namespace Filter

def toJson (f : Filter) : Json :=
  .obj [("method", Json.ofOption Method.toJson f.method),
    ("url_contains", Json.ofOption Json.str f.urlContains),
    ("status_min", statusToJson f.statusMin), ("status_max", statusToJson f.statusMax),
    ("origin", Json.ofOption OriginKind.toJson f.origin)]

def ofJson? (v : Json) : Option Filter := do
  let some [method, url, low, high, origin] :=
    v.slots ["method", "url_contains", "status_min", "status_max", "origin"] | none
  some {
    method := ← method.optional Method.ofJson?
    urlContains := ← url.optional Json.text?
    statusMin := ← low.optional Json.uint16?
    statusMax := ← high.optional Json.uint16?
    origin := ← origin.optional OriginKind.ofJson? }

end Filter

namespace Order

def ofName? : String → Option Order
  | "id_asc" => some ascending
  | "id_desc" => some descending
  | _ => none

def ofJson? (v : Json) : Option Order :=
  Json.constantName? v >>= ofName?

end Order

namespace Listing

def toJson (l : Listing) : Json :=
  .obj [("packets", .arr (l.packets.map Summary.toJson)),
    ("total_count", Json.ofNat l.totalCount.toNat), ("has_more", .bool l.hasMore),
    ("limit", Json.ofNat l.limit.toNat), ("offset", Json.ofNat l.offset.toNat)]

def ofJson? (v : Json) : Option Listing := do
  let some [packets, total, more, limit, offset] :=
    v.slots ["packets", "total_count", "has_more", "limit", "offset"] | none
  some {
    packets := ← packets.required (Json.list? Summary.ofJson?)
    totalCount := ← total.required Json.uint64?
    hasMore := ← more.required Json.bool?
    limit := ← limit.required Json.uint64?
    offset := ← offset.required Json.uint64? }

end Listing

namespace HistoryParams

def toJson (p : HistoryParams) : Json :=
  .obj [("limit", Json.ofOption Json.int p.limit), ("offset", Json.ofOption Json.int p.offset),
    ("method", Json.ofOption Json.str p.method),
    ("url_contains", Json.ofOption Json.str p.urlContains),
    ("status_min", Json.ofOption Json.int p.statusMin),
    ("status_max", Json.ofOption Json.int p.statusMax),
    ("origin", Json.ofOption Json.str p.origin), ("order", Json.ofOption Json.str p.order)]

def ofJson? (v : Json) : Option HistoryParams := do
  let some [limit, offset, method, url, low, high, origin, order] :=
    v.slots ["limit", "offset", "method", "url_contains", "status_min", "status_max", "origin",
      "order"] | none
  some {
    limit := ← limit.optionalOrAbsent Json.int64?
    offset := ← offset.optionalOrAbsent Json.int64?
    method := ← method.optionalOrAbsent Json.text?
    urlContains := ← url.optionalOrAbsent Json.text?
    statusMin := ← low.optionalOrAbsent Json.int64?
    statusMax := ← high.optionalOrAbsent Json.int64?
    origin := ← origin.optionalOrAbsent Json.text?
    order := ← order.optionalOrAbsent Json.text? }

end HistoryParams

end PacketReplay
