import Std.Data.HashMap
import PacketReplay.Packet.Record
import PacketReplay.Edit.Basic
import PacketReplay.Store.Basic
import PacketReplay.Resend.Job

set_option autoImplicit false

namespace PacketReplay

/-- The known jobs: their ids in launch order, and the number of each. -/
structure JobRegistry where
  order : List JobId
  handles : Std.HashMap JobId Nat

namespace JobRegistry

def maxTracked : Nat := 1024

def empty : JobRegistry :=
  ⟨[], Std.HashMap.emptyWithCapacity⟩

def find? (r : JobRegistry) (id : JobId) : Option Nat :=
  r.handles[id]?

def forget (handles : Std.HashMap JobId Nat) (ids : List JobId) : Std.HashMap JobId Nat :=
  ids.foldl (fun h id => h.erase id) handles

/-- Whether an id other than the new one can be forgotten at once: its job is finished, or not
known. -/
def isStale (handles : Std.HashMap JobId Nat) (finished : Nat → Bool) (new id : JobId) : Bool :=
  id != new && (handles[id]?).all finished

/-- Adds a job. When there are too many all finished ones are forgotten first, and then the oldest
until there is room; the job just added is always known. -/
def track (r : JobRegistry) (finished : Nat → Bool) (id : JobId) (job : Nat) : JobRegistry :=
  let handles := r.handles.insert id job
  let order := r.order ++ [id]
  if order.length ≤ maxTracked then ⟨order, handles⟩
  else
    let stale := order.filter (isStale handles finished id)
    let kept := order.filter fun i => !isStale handles finished id i
    let excess := kept.length - maxTracked
    ⟨kept.drop excess, forget (forget handles stale) (kept.take excess)⟩

end JobRegistry

/-- The store, every job launched over it, and the jobs that are known. -/
structure Coordinator where
  store : Store
  jobs : Array Job
  registry : JobRegistry

/-- What a transport reports of an attempt, or that the task died on it. -/
inductive Reply where
  | delivery (d : Delivery)
  | death
deriving DecidableEq

namespace Coordinator

def ofStore (s : Store) : Coordinator :=
  ⟨s, #[], JobRegistry.empty⟩

def isFinished (c : Coordinator) (number : Nat) : Bool :=
  match c.jobs[number]? with
  | some j => j.isFinished
  | none => true

def enlist (c : Coordinator) (id : JobId) (job : ResendJob) (source : PacketId)
    (request : OutboundRequest) : Nat × Coordinator :=
  let number := c.jobs.size
  let jobs := c.jobs.push (Job.launch id job request source)
  let c := { c with jobs := jobs }
  (number, { c with registry := c.registry.track c.isFinished id number })

def startOn (c : Coordinator) (id : JobId) (job : ResendJob) (source : Record) :
    Except PacketError (Nat × Coordinator) :=
  match applyRules source job.rules job.policy with
  | .error e => .error e
  | .ok edited => .ok (c.enlist id job source.id (.ofRecord edited))

def launch (c : Coordinator) (id : JobId) (job : ResendJob) :
    Except PacketError (Nat × Coordinator) :=
  if job.count = 0 then .error (.invalidArgument .zeroCount)
  else
    match c.store.get job.source true with
    | .error e => .error e
    | .ok source => c.startOn id job source

def change (c : Coordinator) (number : Nat) (f : Job → Job) : Coordinator :=
  { c with jobs := c.jobs.modify number f }

def dispatch (c : Coordinator) (number : Nat) : Coordinator :=
  c.change number Job.dispatch

def notStored (e : PacketError) : Attempted :=
  .failed ("response not stored: " ++ e.message)

/-- Takes the response to an attempt of a job, and puts it in the table as a packet. One that
cannot be stored, also because the database refuses it, counts as a failure. -/
def keep (c : Coordinator) (number : Nat) (j : Job) (attempt : Nat) (response : Response)
    (now : Instant) (refusal : Option (List String)) : Coordinator :=
  match c.store.insertUnless refusal (j.draft attempt response now) with
  | .ok (r, store) =>
    { c with store := store }.change number fun j => { j with phase := .keeping attempt r }
  | .error e => c.change number fun j => j.judge attempt (notStored e)

def receive (c : Coordinator) (number : Nat) (reply : Reply) (now : Instant)
    (refusal : Option (List String)) : Coordinator :=
  match c.jobs[number]? with
  | none => c
  | some j =>
    match j.phase, reply with
    | .sending _, .death => c.change number Job.die
    | .sending attempt, .delivery (.failed message) =>
      c.change number fun j => j.judge attempt (.failed message)
    | .sending attempt, .delivery (.delivered response) =>
      c.keep number j attempt response now refusal
    | _, _ => c

/-- Keeps the record of a job's attempt in memory, once it is in the table. -/
def mirror (c : Coordinator) (number : Nat) : Coordinator :=
  match c.jobs[number]? with
  | none => c
  | some j =>
    match j.phase with
    | .keeping attempt r =>
      { c with store := c.store.mirror r }.change number fun j => j.judge attempt (.stored r.id)
    | _ => c

def publish (c : Coordinator) (number : Nat) : Coordinator :=
  c.change number Job.publish

def proceed (c : Coordinator) (number : Nat) (elapsedMs : UInt64) : Coordinator :=
  c.change number fun j => j.proceed elapsedMs

/-- Sends the request of a job and takes it through all that follows from the reply. -/
def attempt (c : Coordinator) (number : Nat) (reply : Reply) (now : Instant)
    (elapsedMs : UInt64) : Coordinator :=
  ((((c.dispatch number).receive number reply now none).mirror number).publish number).proceed
    number elapsedMs

def wake (c : Coordinator) (number : Nat) : Coordinator :=
  c.change number Job.wake

def await (c : Coordinator) (number : Nat) : Option (Except PacketError ResendResult) :=
  match c.jobs[number]? with
  | none => none
  | some j =>
    match j.await with
    | .result r => some (.ok r)
    | .aborted => some (.error (.jobAborted j.progress.job))
    | .pending => none

end Coordinator

end PacketReplay
