import PacketReplay.Service.Basic

/-!
# Sessions

A session is a service with the jobs launched over it and a transport that answers their sends. It
is deterministic: jobs run one after another, pauses pass on the session's own clock, and the
wall clock stands still. Sends are answered at once, or, in a gated session, each waits in one queue
until it is permitted.

A service can be opened again over the same store. Jobs of the services before it live on, and a
store on disk is shared by all of them.
-/

set_option autoImplicit false

namespace PacketReplay

/-- How sends are answered: by the number of the send, from zero, and its request. -/
abbrev Transport := Nat → OutboundRequest → Reply

/-- The transport that gives replies in turn, over and over; with no replies, empty responses. -/
def Transport.scripted (script : Array Reply) : Transport := fun k _ =>
  (script[k % script.size]?).getD (.delivery (.delivered ⟨200, [], []⟩))

structure Sent where
  atMs : Nat
  request : OutboundRequest
deriving DecidableEq

structure Handle where
  service : Nat
  number : Nat
deriving DecidableEq

structure Session where
  earlier : Array Service
  service : Service
  /-- Whether the table is on disk, and so shared by all services. -/
  onDisk : Bool
  gated : Bool
  transport : Transport
  now : Instant
  elapsedMs : Nat
  sends : Nat
  /-- The requests sent since they were last looked at. -/
  sent : Array Sent
  waiting : List Handle
  launched : Array Handle
  /-- The jobs that were still known at the end of the call that launched them. -/
  held : Array (Option Handle)

namespace Session

def start (service : Service) (onDisk gated : Bool) (transport : Transport) (now : Instant) :
    Session where
  earlier := #[]
  service := service
  onDisk := onDisk
  gated := gated
  transport := transport
  now := now
  elapsedMs := 0
  sends := 0
  sent := #[]
  waiting := []
  launched := #[]
  held := #[]

def jobId (n : Nat) : JobId :=
  let digits := Nat.toDigits 10 n
  "00000000-0000-4000-8000-" ++ String.ofList (List.replicate (12 - digits.length) '0' ++ digits)

def service? (s : Session) (number : Nat) : Option Service :=
  if number = s.earlier.size then some s.service else s.earlier[number]?

def job? (s : Session) (h : Handle) : Option Job := do
  (← s.service? h.service).coordinator.jobs[h.number]?

def withTable (s : Session) (table : Option Table) : Session :=
  { s with service := { s.service with coordinator := { s.service.coordinator with
      store := { s.service.store with table := table } } } }

def withCoordinator (s : Session) (c : Coordinator) : Session :=
  { s with service := { s.service with coordinator := c } }

/-- Changes the coordinator of a service. One before the service in use sees the shared table, and
what it does to it is seen by all. -/
def changeCoordinator (s : Session) (number : Nat) (f : Coordinator → Coordinator) : Session :=
  if number = s.earlier.size then s.withCoordinator (f s.service.coordinator)
  else
    match s.earlier[number]? with
    | none => s
    | some old =>
      if s.onDisk then
        let shared := { old.coordinator with
          store := { old.store with table := s.service.store.table } }
        let new := f shared
        { s with earlier := s.earlier.set! number { old with coordinator := new } }.withTable
          new.store.table
      else
        { s with earlier := s.earlier.set! number { old with coordinator := f old.coordinator } }

def send (s : Session) (h : Handle) (request : OutboundRequest) : Session :=
  let reply := s.transport s.sends request
  { s with sends := s.sends + 1, sent := s.sent.push ⟨s.elapsedMs, request⟩ }.changeCoordinator
    h.service fun c => c.attempt h.number reply s.now 0

def rest (s : Session) (h : Handle) : Session :=
  match s.job? h with
  | some j =>
    match j.phase with
    | .pausing _ ms =>
      { s with elapsedMs := s.elapsedMs + ms.toNat }.changeCoordinator h.service
        fun c => c.wake h.number
    | _ => s
  | none => s

def pendingRequest? (s : Session) (h : Handle) : Option OutboundRequest := do
  let j ← s.job? h
  match j.phase with
  | .ready _ => some j.request
  | _ => none

/-- Puts a job whose pause is over into the queue, if it has something to send. -/
def queue (s : Session) (h : Handle) : Session :=
  let s := s.rest h
  match s.pendingRequest? h with
  | some _ => { s with waiting := s.waiting ++ [h] }
  | none => s

def run : Nat → Session → Handle → Session
  | 0, s, _ => s
  | sends + 1, s, h =>
    let s := s.rest h
    match s.pendingRequest? h with
    | some request => run sends (s.send h request) h
    | none => s

/-- Lets a job go on as far as it can: to its end, or to the queue. -/
def settle (s : Session) (h : Handle) : Session :=
  if s.gated then s.queue h
  else
    match s.job? h with
    | some j => run j.count.toNat s h
    | none => s

def permit (s : Session) : Session :=
  match s.waiting with
  | [] => s
  | h :: rest =>
    let s := { s with waiting := rest }
    match s.pendingRequest? h with
    | some request => (s.send h request).settle h
    | none => s

def release : Nat → Session → Session
  | 0, s => s
  | n + 1, s => if s.waiting.isEmpty then s else release n s.permit

/-- Launches a job and lets it go on; with its handle and its progress at launch. -/
def launch (s : Session) (job : ResendJob) :
    Except PacketError (Handle × Option Progress × Session) :=
  let h : Handle := ⟨s.earlier.size, s.service.coordinator.jobs.size⟩
  match s.service.launch (jobId (s.launched.size + 1)) job with
  | .error e => .error e
  | .ok (_, service) =>
    let s := { s with service := service, launched := s.launched.push h }
    .ok (h, (s.job? h).map Job.progress, s.settle h)

def knows (s : Session) (id : JobId) : Bool :=
  (s.service.coordinator.registry.find? id).isSome

/-- Ends a call: of the jobs it launched, those still known are held from now on. -/
def hold (s : Session) : Session :=
  let new := (List.range' s.held.size (s.launched.size - s.held.size)).map fun i =>
    if s.knows (jobId (i + 1)) then s.launched[i]? else none
  { s with held := s.held ++ new.toArray }

/-- The service opened again: over the same table, or with an empty store when there is no disk.
No job is known to it. -/
def reopen (s : Session) : Session :=
  let store := if s.onDisk then s.service.store.reopened else Store.empty s.service.store.capacity
  { s with
    earlier := s.earlier.push s.service
    service := { s.service with coordinator := Coordinator.ofStore store } }

end Session

end PacketReplay
