import PacketReplay.Resend.Report

/-!
# One running job

A job sends the same request again and again, numbered from one, and pauses between two sends. An
attempt goes through steps between which anything else may happen: it is handed to the transport,
its response is put in the table and then in memory, what came of it is published, and the job goes
on. The last attempt is followed by the result. A job whose task dies stays as it is and never gets
a result.
-/

set_option autoImplicit false

namespace PacketReplay

inductive Attempted where
  | stored (id : PacketId)
  | failed (message : String)
deriving DecidableEq

inductive Phase where
  | ready (attempt : Nat)
  | sending (attempt : Nat)
  /-- The response to an attempt is in the table and not yet in memory. -/
  | keeping (attempt : Nat) (record : Record)
  /-- What came of an attempt is known and not yet published. -/
  | judged (attempt : Nat) (what : Attempted)
  | published (attempt : Nat)
  /-- The pause after an attempt runs, for as long as was asked for. -/
  | pausing (attempt : Nat) (ms : UInt64)
  | finished
  | dead
deriving DecidableEq

structure Job where
  count : UInt32
  intervalMs : UInt64
  request : OutboundRequest
  phase : Phase
  failures : List Failure
  progress : Progress
deriving DecidableEq

namespace Job

/-- The states that a launch publishes before anybody knows the job, in order. -/
def openingStates : Mode → List JobState
  | .sync => [.pending, .running]
  | .async => [.pending, .running, .detached]

theorem openingStates_ne_nil (mode : Mode) : openingStates mode ≠ [] := by
  cases mode <;> exact List.cons_ne_nil _ _

def launchedState (mode : Mode) : JobState :=
  (openingStates mode).getLast (openingStates_ne_nil mode)

/-- What a launch publishes before anybody knows the job, in order. -/
def openings (id : JobId) (job : ResendJob) (source : PacketId) : List Progress :=
  (openingStates job.mode).map fun s => { Progress.pending id source job.count with state := s }

def launch (id : JobId) (job : ResendJob) (request : OutboundRequest) (source : PacketId) :
    Job where
  count := job.count
  intervalMs := job.intervalMs
  request := request
  phase := .ready 1
  failures := []
  progress := { Progress.pending id source job.count with state := launchedState job.mode }

def isFinished (j : Job) : Bool :=
  j.progress.state == .completed

/-- Whether the job's task is gone. -/
def isOver (j : Job) : Bool :=
  j.phase == .finished || j.phase == .dead

def draft (j : Job) (attempt : Nat) (response : Response) (now : Instant) : Draft where
  method := j.request.method
  url := j.request.url
  status := some response.status
  headers := j.request.headers
  body := j.request.body
  responseHeaders := response.headers
  responseBody := some response.body
  timestamp := now
  origin := .resend j.progress.source j.progress.job attempt.toUInt32

def dispatch (j : Job) : Job :=
  match j.phase with
  | .ready attempt => { j with phase := .sending attempt }
  | _ => j

def judge (j : Job) (attempt : Nat) (what : Attempted) : Job :=
  { j with phase := .judged attempt what }

/-- The job with an attempt counted, as a success or as a failure. -/
def tally (j : Job) (attempt : Nat) (what : Attempted) : Job :=
  let (ids, failures) : List PacketId × List Failure := match what with
    | .stored id => (j.progress.packetIds ++ [id], j.failures)
    | .failed message => (j.progress.packetIds, j.failures ++ [⟨attempt.toUInt32, message⟩])
  { j with
    failures := failures
    progress := { j.progress with
      sentCount := ids.length.toUInt32
      failedCount := failures.length.toUInt32
      packetIds := ids } }

def publish (j : Job) : Job :=
  match j.phase with
  | .judged attempt what => { j.tally attempt what with phase := .published attempt }
  | _ => j

def account (j : Job) (elapsedMs : UInt64) : ResendResult where
  job := j.progress.job
  source := j.progress.source
  success := j.failures.isEmpty
  sentCount := j.progress.packetIds.length.toUInt32
  failedCount := j.failures.length.toUInt32
  packetIds := j.progress.packetIds
  failures := j.failures
  executionTimeMs := elapsedMs

def finish (j : Job) (elapsedMs : UInt64) : Job :=
  { j with
    phase := .finished
    progress := { j.progress with state := .completed, result := some (j.account elapsedMs) } }

/-- What a job does after an attempt: the next one, at once or after a pause, or its result. -/
def proceed (j : Job) (elapsedMs : UInt64) : Job :=
  match j.phase with
  | .published attempt =>
    if attempt < j.count.toNat then
      if j.intervalMs = 0 then { j with phase := .ready (attempt + 1) }
      else { j with phase := .pausing attempt j.intervalMs }
    else j.finish elapsedMs
  | _ => j

def wake (j : Job) : Job :=
  match j.phase with
  | .pausing attempt _ => { j with phase := .ready (attempt + 1) }
  | _ => j

def die (j : Job) : Job :=
  if j.isOver then j else { j with phase := .dead }

inductive Awaited where
  | result (r : ResendResult)
  | aborted
  | pending
deriving DecidableEq

def await (j : Job) : Awaited :=
  match j.progress.result with
  | some r => .result r
  | none => if j.isOver then .aborted else .pending

end Job

end PacketReplay
