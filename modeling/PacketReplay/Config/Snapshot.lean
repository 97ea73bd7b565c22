import PacketReplay.Json.Decode
import PacketReplay.Json.Reader
import PacketReplay.Text.Basic

set_option autoImplicit false

namespace PacketReplay

structure ListenPort where
  port : UInt16
  protocol : String
  server : Option String
  enabled : Bool
deriving DecidableEq

structure TargetServer where
  name : String
  host : String
  port : UInt16
  useSsl : Bool
deriving DecidableEq

/-- A snapshot; the other categories are sorted by name, each name once. -/
structure Snapshot where
  listenPorts : List ListenPort
  servers : List TargetServer
  extra : List (String × Json)

def listenPortsName : String := "listenPorts"

def serversName : String := "servers"

namespace ListenPort

def toJson (p : ListenPort) : Json :=
  .obj ([("port", Json.ofNat p.port.toNat), ("protocol", .str p.protocol)] ++
    Json.memberIfSome "server" Json.str p.server ++ [("enabled", .bool p.enabled)])

def ofJson? (v : Json) : Option ListenPort := do
  let some [port, protocol, server, enabled] :=
    v.slots ["port", "protocol", "server", "enabled"] | none
  some {
    port := ← port.required Json.uint16?
    protocol := ← protocol.withDefault Json.text? ""
    server := ← server.optionalOrAbsent Json.text?
    enabled := ← enabled.withDefault Json.bool? true }

end ListenPort

namespace TargetServer

def toJson (s : TargetServer) : Json :=
  .obj [("name", .str s.name), ("host", .str s.host), ("port", Json.ofNat s.port.toNat),
    ("useSsl", .bool s.useSsl)]

def ofJson? (v : Json) : Option TargetServer := do
  let some [name, host, port, useSsl] := v.slots ["name", "host", "port", "useSsl"] | none
  some {
    name := ← name.required Json.text?
    host := ← host.required Json.text?
    port := ← port.required Json.uint16?
    useSsl := ← useSsl.withDefault Json.bool? false }

end TargetServer

namespace Snapshot

def empty : Snapshot :=
  ⟨[], [], []⟩

def portsJson (s : Snapshot) : Json :=
  .arr (s.listenPorts.map ListenPort.toJson)

def serversJson (s : Snapshot) : Json :=
  .arr (s.servers.map TargetServer.toJson)

def toJson (s : Snapshot) : Json :=
  .obj ((listenPortsName, s.portsJson) :: (serversName, s.serversJson) :: s.extra)

def isExtra (m : String × Json) : Bool :=
  m.1 != listenPortsName && m.1 != serversName

/-- The snapshot a JSON value writes: always an object, whose other members are all kept and so
must all be readable. -/
def ofJson? : Json → Option Snapshot
  | .obj members => do
    let ports ← Json.memberSlot members listenPortsName
    let servers ← Json.memberSlot members serversName
    let extra := members.filter isExtra
    if Json.readableMembers extra then
      some {
        listenPorts := ← ports.withDefault (Json.list? ListenPort.ofJson?) []
        servers := ← servers.withDefault (Json.list? TargetServer.ofJson?) []
        extra := Json.canonicalMembers extra [] }
    else none
  | _ => none

def ofText? (text : String) : Option Snapshot :=
  Json.parseText text >>= ofJson?

end Snapshot

/-- The categories of a configuration, sorted by name. -/
structure Registry where
  categories : List (String × Json)

namespace Registry

def ofSnapshot (s : Snapshot) : Registry :=
  ⟨Json.insertMember serversName s.serversJson.canonical
    (Json.insertMember listenPortsName s.portsJson.canonical s.extra)⟩

def names (r : Registry) : List String :=
  r.categories.map Prod.fst

def find? (r : Registry) (name : String) : Option Json :=
  (r.categories.find? fun c => c.1 == name).map Prod.snd

/-- Whether a selection stands for every category: there is none, it is empty, or it says so. -/
def selectsAll : Option (List String) → Bool
  | none => true
  | some names => names.isEmpty || names.any (sameIgnoringCase · "all")

/-- The selected categories; names that are not known are skipped. -/
def select (r : Registry) (selection : Option (List String)) : List (String × Json) :=
  match selection with
  | some names =>
    if selectsAll (some names) then r.categories
    else names.foldl (fun found name =>
      match r.find? name with
      | some entries => Json.insertMember name entries found
      | none => found) []
  | none => r.categories

end Registry

end PacketReplay
