import PacketReplay.Proofs.ReportText
import PacketReplay.Proofs.StoreLog
import PacketReplay.Tool.Server

/-!
# What the tools answer

Calling a tool does to a session what the operation of the service does. What the operation returns
is read back from the text of the answer, and an error of the operation is reported with its message
and its kind. Arguments that are not understood do nothing.

The configuration can hold any JSON. Its doubles are written in a shortened form of which nothing is
said here; the rest is read back because it was read from a text before.
-/

set_option autoImplicit false

namespace PacketReplay

theorem ListenPort.legible_toJson (p : ListenPort) (depth : Nat) (h : depth + 1 ≤ Json.maxDepth) :
    Json.Legible depth p.toJson := by
  have hport := Json.legible_ofNat p.port.toNat (p.port.toNat_lt.trans (by decide)) (depth + 1)
  refine ⟨by omega, ?_⟩
  simp only [Json.legibleMembers_append]
  refine ⟨⟨⟨hport, trivial, trivial⟩, ?_⟩, trivial, trivial⟩
  exact Json.legibleMembers_ifSome (depth + 1) "server" Json.str (fun _ => trivial) p.server

theorem TargetServer.legible_toJson (s : TargetServer) (depth : Nat)
    (h : depth + 1 ≤ Json.maxDepth) : Json.Legible depth s.toJson := by
  have hport := Json.legible_ofNat s.port.toNat (s.port.toNat_lt.trans (by decide)) (depth + 1)
  exact ⟨by omega, trivial, trivial, hport, trivial, trivial⟩

namespace Snapshot

theorem legible_portsJson (s : Snapshot) : Json.Legible 1 s.portsJson :=
  Json.legible_map ListenPort.toJson 1 (by decide) (fun p => p.legible_toJson 2 (by decide)) _

theorem legible_serversJson (s : Snapshot) : Json.Legible 1 s.serversJson :=
  Json.legible_map TargetServer.toJson 1 (by decide) (fun t => t.legible_toJson 2 (by decide)) _

theorem extra_of_ofJson (v : Json) (s : Snapshot) (h : ofJson? v = some s) :
    ∃ members, v = .obj members ∧ Json.readableMembers (members.filter isExtra) = true ∧
      s.extra = Json.canonicalMembers (members.filter isExtra) [] := by
  cases v with
  | obj members =>
    obtain ⟨ports, -, h⟩ := Option.bind_eq_some_iff.mp h
    obtain ⟨servers, -, h⟩ := Option.bind_eq_some_iff.mp h
    dsimp only at h
    split at h
    · rename_i hreadable
      obtain ⟨listenPorts, -, h⟩ := Option.bind_eq_some_iff.mp h
      obtain ⟨targets, -, h⟩ := Option.bind_eq_some_iff.mp h
      cases h
      exact ⟨members, rfl, hreadable, rfl⟩
    · cases h
  | _ => cases h

theorem held_extra (s : Snapshot) (text : String) (h : ofText? text = some s) :
    Json.Held s.extra := by
  obtain ⟨v, hv, hs⟩ := Option.bind_eq_some_iff.mp h
  obtain ⟨members, rfl, hreadable, hextra⟩ := extra_of_ofJson v s hs
  have hfits := (Json.fitsMembers_iff 1 members).mp (Json.fits_of_parseText text _ hv).2
  refine hextra ▸ .canonicalMembers ?_ hreadable
  rw [Json.fitsMembers_iff]
  exact fun m hm => hfits m (List.mem_of_mem_filter hm)

end Snapshot

namespace Registry

theorem held_insert (name : String) (v : Json) (ms : List (String × Json)) (hms : Json.Held ms)
    (h : Json.Legible 1 v) : Json.Held (Json.insertMember name v.canonical ms) := by
  obtain ⟨hfits, hreadable, -⟩ := (Json.legible_iff v 1).mp h
  exact hms.insertMember name v.canonical (Json.canonical_canonical v)
    (Json.fits_canonical v 1 hfits) (Json.readable_canonical v hreadable)

theorem held_ofSnapshot (s : Snapshot) (h : Json.Held s.extra) :
    Json.Held (ofSnapshot s).categories :=
  held_insert _ _ _ (held_insert _ _ _ h s.legible_portsJson) s.legible_serversJson

/-- Every configuration that was read from a text is held. -/
theorem held_ofText (text : String) (s : Snapshot) (h : Snapshot.ofText? text = some s) :
    Json.Held (ofSnapshot s).categories :=
  held_ofSnapshot s (s.held_extra text h)

theorem held_found (r : Registry) (h : Json.Held r.categories) (name : String) (v : Json)
    (hv : r.find? name = some v) (ms : List (String × Json)) (hms : Json.Held ms) :
    Json.Held (Json.insertMember name v ms) := by
  obtain ⟨m, hm, rfl⟩ := Option.map_eq_some_iff.mp hv
  have hmem := List.mem_of_find?_eq_some hm
  exact hms.insertMember name m.2 (h.canonical m hmem) (h.fits m hmem) (h.readable m hmem)

theorem held_select (r : Registry) (h : Json.Held r.categories) (selection : Option (List String)) :
    Json.Held (r.select selection) := by
  cases selection with
  | none => exact h
  | some names =>
    rw [select]
    split_ifs
    · exact h
    · refine List.foldlRecOn names _ .nil fun found hfound name _ => ?_
      split
      · rename_i v hv
        exact r.held_found h name v hv found hfound
      · exact hfound

end Registry

inductive ToolValue where
  | configs (categories : List (String × Json))
  | history (page : Listing)
  | detail (r : Record)
  | resend (o : Outcome)

namespace ToolValue

def toJson : ToolValue → Json
  | configs categories => .obj categories
  | history page => page.toJson
  | detail r => r.toJson
  | resend o => o.toJson

/-- Whether there is a double in a returned value; only the configuration has any. -/
def hasFloat : ToolValue → Bool
  | configs categories => Json.hasFloatMembers categories
  | _ => false

end ToolValue

def Json.members? : Json → Option (List (String × Json))
  | .obj members => if readableMembers members then some (canonicalMembers members []) else none
  | _ => none

/-- The value that the operation behind a tool returned, as JSON writes it. -/
def Tool.read? : Tool → Json → Option ToolValue
  | .getConfigs, v => v.members?.map .configs
  | .getHistory, v => (Listing.ofJson? v).map .history
  | .getPacketDetail, v => (Record.ofJson? v).map .detail
  | .resendPacket, v => (Outcome.ofJson? v).map .resend

namespace Session

/-- The operation itself, with what it returns; nothing when its caller would wait. -/
def operate (s : Session) : ToolCall → Option (Except PacketError ToolValue) × Session
  | .configs p => (some (.ok (.configs (s.service.config p))), s)
  | .history p => (some ((s.service.history p).map .history), s)
  | .detail p => (some ((s.service.detail p).map .detail), s)
  | .resend p => ((s.resend p).1.map fun r => r.map .resend, (s.resend p).2)

/-- A call of a tool is the operation, with its value as JSON. -/
theorem call_eq (s : Session) (c : ToolCall) :
    s.call c = ((s.operate c).1.map fun r => r.map ToolValue.toJson, (s.operate c).2) := by
  cases c with
  | configs p => rfl
  | history p =>
    rw [call, operate]
    cases s.service.history p <;> rfl
  | detail p =>
    rw [call, operate]
    cases s.service.detail p <;> rfl
  | resend p =>
    rw [call, operate]
    obtain ⟨_ | _ | _, _⟩ := s.resend p <;> rfl

end Session

namespace ToolReply

/-- The reply is a text that writes a value, as the compact text of the value does. -/
def Shows (reply : ToolReply) (tool : Tool) (value : ToolValue) : Prop :=
  ∃ text, reply = .ofText text ∧ (Json.parseText text >>= tool.read?) = some value ∧
    (Json.parseText value.toJson.compact >>= tool.read?) = some value

/-- The reply tells of an error: its message, its kind, and which rule is wrong if one is. -/
def Reports (reply : ToolReply) (e : PacketError) : Prop :=
  ∃ f, reply = .fault f ∧ f.message = e.message ∧ f.data.get? "kind" = some (.str e.kind) ∧
    ∀ v, f.data.get? "index" = some v ↔ ∃ i fault, e = .invalidRule i fault ∧ v = Json.ofNat i

theorem reports_operation (e : PacketError) : Reports (.fault (.operation e)) e := by
  refine ⟨.operation e, rfl, rfl, ?_, fun v => ?_⟩
  · cases e <;> rfl
  · cases e with
    | invalidRule i fault =>
      have hindex : (ToolFault.operation (.invalidRule i fault)).data.get? "index" =
          some (Json.ofNat i) := rfl
      rw [hindex, Option.some.injEq]
      constructor
      · rintro rfl
        exact ⟨i, fault, rfl, rfl⟩
      · rintro ⟨_, _, ⟨⟩, rfl⟩
        rfl
    | _ =>
      constructor
      · intro h
        cases h
      · rintro ⟨_, _, ⟨⟩, -⟩

end ToolReply

theorem Json.Held.members_eq {ms : List (String × Json)} (h : Json.Held ms) :
    (Json.obj ms).members? = some ms := by
  rw [Json.members?, if_pos ((Json.readableMembers_iff ms).mpr h.readable),
    h.canonicalMembers_eq_self]

namespace ToolValue

def tool : ToolValue → Tool
  | configs _ => .getConfigs
  | history _ => .getHistory
  | detail _ => .getPacketDetail
  | resend _ => .resendPacket

def Held : ToolValue → Prop
  | configs categories => Json.Held categories
  | _ => True

theorem legible_toJson (value : ToolValue) (h : value.Held) (hfloat : value.hasFloat = false) :
    Json.Legible 0 value.toJson := by
  cases value with
  | configs categories => exact Json.Held.legible h hfloat
  | history page => exact page.legible_toJson
  | detail r => exact r.legible_toJson
  | resend o => exact o.legible_toJson 0 (by decide)

theorem read?_toJson (value : ToolValue) (h : value.Held) :
    value.tool.read? value.toJson = some value := by
  cases value with
  | configs categories => exact congrArg (Option.map configs) (Json.Held.members_eq h)
  | history page => exact congrArg (Option.map history) page.ofJson?_toJson
  | detail r => exact congrArg (Option.map detail) r.ofJson?_toJson
  | resend o => exact congrArg (Option.map resend) o.ofJson?_toJson

theorem shows_toJson (value : ToolValue) (h : value.Held) (hfloat : value.hasFloat = false) :
    ToolReply.Shows (.ofValue value.toJson) value.tool value := by
  have hlegible := value.legible_toJson h hfloat
  have hread := value.read?_toJson h
  refine ⟨value.toJson.pretty, rfl, ?_, ?_⟩
  · rw [Json.parseText_pretty _ hlegible, Option.bind_eq_bind, Option.bind_some, hread]
  · rw [Json.parseText_compact _ hlegible, Option.bind_eq_bind, Option.bind_some, hread]

end ToolValue

namespace ToolCall

def tool : ToolCall → Tool
  | configs _ => .getConfigs
  | history _ => .getHistory
  | detail _ => .getPacketDetail
  | resend _ => .resendPacket

theorem tool_of_ofArguments (arguments : Json) (tool : Tool) (c : ToolCall)
    (h : ofArguments? arguments tool = some c) : c.tool = tool := by
  cases tool <;> obtain ⟨p, -, rfl⟩ := Option.map_eq_some_iff.mp h <;> rfl

end ToolCall

namespace Session

theorem operate_value (s : Session) (h : Json.Held s.service.configs.categories) (c : ToolCall)
    (value : ToolValue) (hvalue : (s.operate c).1 = some (.ok value)) :
    value.tool = c.tool ∧ value.Held := by
  cases c with
  | configs p =>
    cases hvalue
    exact ⟨rfl, s.service.configs.held_select h p.categories⟩
  | history p =>
    rw [operate] at hvalue
    cases hr : s.service.history p <;> rw [hr] at hvalue <;> cases hvalue
    exact ⟨rfl, trivial⟩
  | detail p =>
    rw [operate] at hvalue
    cases hr : s.service.detail p <;> rw [hr] at hvalue <;> cases hvalue
    exact ⟨rfl, trivial⟩
  | resend p =>
    obtain ⟨answer, -, hanswer⟩ := Option.map_eq_some_iff.mp hvalue
    cases answer <;> cases hanswer
    exact ⟨rfl, trivial⟩

end Session

theorem Service.launch_configs (s : Service) (id : JobId) (job : ResendJob) {number : Nat}
    {t : Service} (h : s.launch id job = .ok (number, t)) : t.configs = s.configs := by
  rw [launch] at h
  cases hlaunch : s.coordinator.launch id job <;> rw [hlaunch] at h <;> cases h
  rfl

namespace Session

variable (s : Session) (h : Handle)

theorem changeCoordinator_configs (number : Nat) (f : Coordinator → Coordinator) :
    (s.changeCoordinator number f).service.configs = s.service.configs := by
  unfold changeCoordinator
  split
  · rfl
  · split
    · rfl
    · split <;> rfl

theorem send_configs (request : OutboundRequest) :
    (s.send h request).service.configs = s.service.configs :=
  changeCoordinator_configs _ _ _

theorem rest_configs : (s.rest h).service.configs = s.service.configs := by
  unfold rest
  split
  · split
    · exact changeCoordinator_configs _ _ _
    · rfl
  · rfl

theorem run_configs (sends : Nat) : (run sends s h).service.configs = s.service.configs := by
  induction sends generalizing s with
  | zero => rfl
  | succ sends ih =>
    have hrest := s.rest_configs h
    rw [run]
    split
    · exact (ih _).trans ((send_configs _ h _).trans hrest)
    · exact hrest

theorem queue_configs : (s.queue h).service.configs = s.service.configs := by
  have hrest := s.rest_configs h
  rw [queue]
  split <;> exact hrest

theorem settle_configs : (s.settle h).service.configs = s.service.configs := by
  unfold settle
  split
  · exact s.queue_configs h
  · split
    · exact s.run_configs h _
    · rfl

theorem execute_configs (job : ResendJob) :
    (s.execute job).2.service.configs = s.service.configs := by
  unfold execute
  split
  · rfl
  · rename_i h atLaunch t hlaunch
    rw [launch] at hlaunch
    split at hlaunch
    · cases hlaunch
    · rename_i number service hservice
      cases hlaunch
      exact (settle_configs _ _).trans (s.service.launch_configs _ job hservice)

theorem operate_configs (c : ToolCall) : (s.operate c).2.service.configs = s.service.configs := by
  cases c with
  | resend p =>
    change (s.resend p).2.service.configs = _
    unfold resend
    split
    · rfl
    · exact s.execute_configs _
  | _ => rfl

end Session

theorem Session.request_call (s : Session) (tool : Tool) (given : Option (List (String × Json))) :
    s.request (.call tool.name (given.map .obj)) =
      s.callTool tool.name (Json.obj (given.getD [])).canonical := by
  cases given <;> rfl

theorem Tool.ofName?_name (tool : Tool) : ofName? tool.name = some tool := by
  cases tool <;> rfl

/-- **Tools are the operations.** Whatever the session and the arguments are: arguments that are not
understood change nothing. A call that is understood leaves the session as the operation leaves it,
and waits when the operation would. The value of the operation is read back from the text of the
answer as from the compact text of the value, unless it is configuration with a double in it, and an
error is told with its message and its kind, and with an index just when a rule is wrong. The
configuration is held as every configuration that was read from a text is; it stays the same. -/
theorem tools_are_operations (s : Session) (h : Json.Held s.service.configs.categories)
    (tool : Tool) (given : Option (List (String × Json))) :
    let arguments := (Json.obj (given.getD [])).canonical
    let answer := s.request (.call tool.name (given.map .obj))
    answer.2.service.configs = s.service.configs ∧
    (ToolCall.ofArguments? arguments tool = none → answer = (.fault .badArguments, s)) ∧
    ∀ c, ToolCall.ofArguments? arguments tool = some c →
      answer.2 = (s.operate c).2 ∧
      ((s.operate c).1 = none → answer.1 = .pending) ∧
      (∀ e, (s.operate c).1 = some (.error e) → answer.1.Reports e) ∧
      ∀ value, (s.operate c).1 = some (.ok value) → value.hasFloat = false →
        answer.1.Shows tool value := by
  intro arguments answer
  have hanswer : answer = s.callTool tool.name arguments := s.request_call tool given
  rw [Session.callTool, tool.ofName?_name] at hanswer
  cases hcall : ToolCall.ofArguments? arguments tool with
  | none =>
    simp only [hcall] at hanswer
    rw [hanswer]
    refine ⟨rfl, fun _ => rfl, ?_⟩
    rintro c ⟨⟩
  | some called =>
    simp only [hcall, s.call_eq called] at hanswer
    rw [hanswer]
    refine ⟨s.operate_configs called, ?_, ?_⟩
    · rintro ⟨⟩
    rintro c ⟨⟩
    refine ⟨rfl, fun hr => ?_, fun e hr => ?_, fun value hr hfloat => ?_⟩
    · rw [hr]
      rfl
    · rw [hr]
      exact ToolReply.reports_operation e
    · obtain ⟨htool, hheld⟩ := s.operate_value h called value hr
      have hcalled := ToolCall.tool_of_ofArguments arguments tool called hcall
      rw [hr, ← hcalled, ← htool]
      exact value.shows_toJson hheld hfloat

def Snapshot.small : Snapshot :=
  ⟨[⟨8080, "", none, true⟩], [⟨"home", "example.com", 443, false⟩],
    [("limits", .obj [("most", .int 3)])]⟩

/-- The same configuration with the fields left out that have a default. -/
def Snapshot.smallJson : Json :=
  .obj [("servers", .arr [.obj [("name", .str "home"), ("host", .str "example.com"),
      ("port", .int 443)]]),
    ("limits", .obj [("most", .int 3)]),
    ("listenPorts", .arr [.obj [("port", .int 8080)]])]

theorem Snapshot.ofText?_small : ofText? smallJson.compact = some small := by
  have hlegible : Json.Legible 0 smallJson := by
    simp [smallJson, Json.Legible, Json.LegibleItems, Json.LegibleMembers, Json.maxDepth]
  rw [ofText?, Json.parseText_compact _ hlegible]
  rfl

def Session.small : Session :=
  .start ⟨.ofStore (Store.run (fun _ => 16) [.append (.bare "http://a/") none]).2,
    .fixed (some "key"), .ofSnapshot .small, 1000, 60000⟩ false false (.scripted #[]) .epoch

/-- The configuration and a page are answered, a packet that is not there is reported, and a packet
is sent again. -/
theorem tools_are_operations_small :
    (Session.small.request (.call "get_configs" none)).1.Shows .getConfigs
      (.configs Session.small.service.configs.categories) ∧
    (Session.small.request (.call "get_history" (some (.obj [("limit", .int 7)])))).1.Shows
      .getHistory (.history ⟨[((Draft.bare "http://a/").withId 1).summary], 1, false, 7, 0⟩) ∧
    (Session.small.request (.call "get_packet_detail"
      (some (.obj [("packet_id", .int 2)])))).1.Reports (.notFound 2) ∧
    (Session.small.request (.call "resend_packet" (some (.obj [("packet_id", .int 1),
      ("access_token", .str "key")])))).1.Shows .resendPacket
        (.resend (.completed ⟨Session.jobId 1, 1, true, 1, 0, [2], [], 0⟩)) := by
  have hheld : Json.Held Session.small.service.configs.categories :=
    Registry.held_ofText _ _ Snapshot.ofText?_small
  have hpage : Session.small.service.history ⟨some 7, none, none, none, none, none, none, none⟩ =
      .ok ⟨[((Draft.bare "http://a/").withId 1).summary], 1, false, 7, 0⟩ := by
    decide +kernel
  refine ⟨?_, ?_, ?_, ?_⟩
  · exact ((tools_are_operations Session.small hheld .getConfigs none).2.2 (.configs ⟨none⟩)
      rfl).2.2.2 _ rfl rfl
  · exact ((tools_are_operations Session.small hheld .getHistory
      (some [("limit", .int 7)])).2.2 (.history ⟨some 7, none, none, none, none, none, none, none⟩)
      rfl).2.2.2 _ (by rw [Session.operate, hpage]; rfl) rfl
  · exact ((tools_are_operations Session.small hheld .getPacketDetail
      (some [("packet_id", .int 2)])).2.2 (.detail ⟨2, false⟩) rfl).2.2.1 _ rfl
  · exact ((tools_are_operations Session.small hheld .resendPacket
      (some [("packet_id", .int 1), ("access_token", .str "key")])).2.2
      (.resend ⟨1, some "key", none, none, [], false, false⟩) rfl).2.2.2 _ rfl rfl

end PacketReplay
