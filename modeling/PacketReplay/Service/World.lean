import PacketReplay.Service.Basic

/-!
# Calls and jobs side by side

Many callers use one service while jobs run. A call is made of parts: its arguments are checked, the
store is looked at in memory and then in the table, a job is launched, and its end is waited for. An
attempt of a job is made of the steps of the coordinator. A world takes one part of one call or one
step of one job at a time, in any order. It keeps a history of what was handed to the transport and
of what came back. Ids of jobs are drawn from a supply, in launch order.
-/

set_option autoImplicit false

namespace PacketReplay

inductive Ask where
  | history (p : HistoryParams)
  | config (p : ConfigParams)
  | detail (p : DetailParams)
  | resend (p : ResendParams)
  /-- To run a job, without the checks of the service. -/
  | execute (job : ResendJob)
  /-- To store a packet, which the database may refuse. -/
  | append (d : Draft) (refusal : Option (List String))

inductive Answer where
  | history (r : Except PacketError Listing)
  | config (settings : List (String × Json))
  | detail (r : Except PacketError Record)
  | resend (r : Except PacketError Outcome)
  | append (r : Except PacketError PacketId)

inductive Call where
  | listing (page : Page) (f : Filter) (o : Order)
  | reading (id : PacketId) (includeBody inMemory : Bool)
  | finding (job : ResendJob) (inMemory : Bool)
  | launched (mode : Mode) (number : Nat)
  /-- A record is in the table and not yet in memory. -/
  | keeping (r : Record)
  | answered

structure Turn where
  call : Call
  answer : Option Answer
  coordinator : Coordinator

namespace Service

def goOn (s : Service) (call : Call) : Turn :=
  ⟨call, none, s.coordinator⟩

def tell (s : Service) (a : Answer) : Turn :=
  ⟨.answered, some a, s.coordinator⟩

def accept (s : Service) (job : ResendJob) : Turn :=
  if job.count = 0 then s.tell (.resend (.error (.invalidArgument .zeroCount)))
  else s.goOn (.finding job true)

def start (s : Service) : Ask → Turn
  | .history p =>
    match p.query with
    | .error e => s.tell (.history (.error e))
    | .ok (page, f, o) => s.goOn (.listing page f o)
  | .config p => s.tell (.config (s.config p))
  | .detail p =>
    match packetId p.packetId with
    | .error e => s.tell (.detail (.error e))
    | .ok id => s.goOn (.reading id p.includeBody true)
  | .resend p =>
    match s.resendJob p with
    | .error e => s.tell (.resend (.error e))
    | .ok job => s.accept job
  | .execute job => s.accept job
  | .append d refusal =>
    match s.store.insertUnless refusal d with
    | .error e => s.tell (.append (.error e))
    | .ok (r, store) => ⟨.keeping r, none, { s.coordinator with store := store }⟩

def resume (ids : Nat → JobId) (s : Service) : Call → Turn
  | .listing page f o => s.tell (.history (s.store.list page f o))
  | .reading id includeBody inMemory =>
    match s.store.look inMemory id includeBody with
    | none => s.goOn (.reading id includeBody false)
    | some r => s.tell (.detail r)
  | .finding job inMemory =>
    match s.store.look inMemory job.source true with
    | none => s.goOn (.finding job false)
    | some (.error e) => s.tell (.resend (.error e))
    | some (.ok source) =>
      match s.coordinator.startOn (ids s.coordinator.jobs.size) job source with
      | .error e => s.tell (.resend (.error e))
      | .ok (number, c) => ⟨.launched job.mode number, none, c⟩
  | .launched .async number =>
    match s.coordinator.jobs[number]? with
    | none => s.goOn (.launched .async number)
    | some j => s.tell (.resend (.ok (.submitted j.progress)))
  | .launched .sync number =>
    match s.coordinator.await number with
    | none => s.goOn (.launched .sync number)
    | some (.ok r) => s.tell (.resend (.ok (.completed r)))
    | some (.error e) => s.tell (.resend (.error e))
  | .keeping r =>
    ⟨.answered, some (.append (.ok r.id)),
      { s.coordinator with store := s.store.mirror r }⟩
  | .answered => s.goOn .answered

end Service

inductive Entry where
  | sent (number attempt : Nat) (request : OutboundRequest)
  /-- The reply to an attempt was taken, with the record it was stored as. -/
  | replied (number attempt : Nat) (reply : Reply) (stored : Option Record)

/-- A service with the calls made to it and the history of its jobs. -/
structure World where
  service : Service
  /-- Where every call stands, by the caller's own key. -/
  calls : Nat → Option Call
  entries : List Entry

inductive Event where
  | ask (key : Nat) (a : Ask)
  | advance (key : Nat)
  | dispatch (number : Nat)
  | receive (number : Nat) (reply : Reply) (now : Instant) (refusal : Option (List String))
  | mirror (number : Nat)
  | publish (number : Nat)
  | proceed (number : Nat) (elapsedMs : UInt64)
  | wake (number : Nat)

namespace World

def start (service : Service) : World :=
  ⟨service, fun _ => none, []⟩

def coordinator (w : World) : Coordinator :=
  w.service.coordinator

def store (w : World) : Store :=
  w.coordinator.store

def withCoordinator (w : World) (c : Coordinator) : World :=
  { w with service := { w.service with coordinator := c } }

def turn (w : World) (key : Nat) (t : Turn) : World :=
  { w.withCoordinator t.coordinator with
    calls := fun k => if k = key then some t.call else w.calls k }

def note (w : World) (e : Entry) : World :=
  { w with entries := w.entries ++ [e] }

def dispatch (w : World) (number : Nat) : World :=
  match w.coordinator.jobs[number]? with
  | none => w
  | some j =>
    match j.phase with
    | .ready attempt =>
      (w.withCoordinator (w.coordinator.dispatch number)).note (.sent number attempt j.request)
    | _ => w

def stored? (c : Coordinator) (number : Nat) : Option Record :=
  match c.jobs[number]? with
  | none => none
  | some j =>
    match j.phase with
    | .keeping _ r => some r
    | _ => none

def receive (w : World) (number : Nat) (reply : Reply) (now : Instant)
    (refusal : Option (List String)) : World :=
  match w.coordinator.jobs[number]? with
  | none => w
  | some j =>
    match j.phase with
    | .sending attempt =>
      let c := w.coordinator.receive number reply now refusal
      (w.withCoordinator c).note (.replied number attempt reply (stored? c number))
    | _ => w

/-- What an event does, with what the caller of a call is told. A key is used for one call only. -/
def step (ids : Nat → JobId) (w : World) : Event → Option Answer × World
  | .ask key a =>
    match w.calls key with
    | some _ => (none, w)
    | none =>
      let t := w.service.start a
      (t.answer, w.turn key t)
  | .advance key =>
    match w.calls key with
    | none => (none, w)
    | some call =>
      let t := w.service.resume ids call
      (t.answer, w.turn key t)
  | .dispatch number => (none, w.dispatch number)
  | .receive number reply now refusal => (none, w.receive number reply now refusal)
  | .mirror number => (none, w.withCoordinator (w.coordinator.mirror number))
  | .publish number => (none, w.withCoordinator (w.coordinator.publish number))
  | .proceed number elapsedMs =>
    (none, w.withCoordinator (w.coordinator.proceed number elapsedMs))
  | .wake number => (none, w.withCoordinator (w.coordinator.wake number))

def run (ids : Nat → JobId) : World → List Event → List (Event × Option Answer) × World
  | w, [] => ([], w)
  | w, e :: es =>
    let (a, w) := w.step ids e
    let (trace, w) := run ids w es
    ((e, a) :: trace, w)

end World

end PacketReplay
