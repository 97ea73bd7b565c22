import PacketReplay.Session.Basic

set_option autoImplicit false

namespace PacketReplay.Session

/-- The outcome of a launched job as its caller gets it; `none` when the caller would wait. -/
def outcome? (s : Session) (h : Handle) (mode : Mode) (atLaunch : Option Progress) :
    Option (Except PacketError Outcome) :=
  match mode with
  | .async => atLaunch.map fun p => .ok (.submitted p)
  | .sync => do
    match ← (← s.service? h.service).coordinator.await h.number with
    | .ok r => some (.ok (.completed r))
    | .error e => some (.error e)

def execute (s : Session) (job : ResendJob) : Option (Except PacketError Outcome) × Session :=
  match s.launch job with
  | .error e => (some (.error e), s)
  | .ok (h, atLaunch, s) => (s.outcome? h job.mode atLaunch, s.hold)

def resend (s : Session) (p : ResendParams) : Option (Except PacketError Outcome) × Session :=
  match s.service.resendJob p with
  | .error e => (some (.error e), s)
  | .ok job => s.execute job

/-- Launches a job a number of times, up to the first error. -/
def launchEach (job : ResendJob) : Nat → Session → Except PacketError Unit × Session
  | 0, s => (.ok (), s)
  | n + 1, s =>
    match s.launch job with
    | .error e => (.error e, s)
    | .ok (_, _, s) => launchEach job n s

def launchMany (s : Session) (job : ResendJob) (n : Nat) : Except PacketError Unit × Session :=
  let (r, s) := launchEach job n s
  (r, s.hold)

def held? (s : Session) (n : Nat) : Option Handle :=
  if n = 0 then none else (s.held[n - 1]?).join

def status? (s : Session) (n : Nat) : Option Job := do
  s.job? (← s.held? n)

/-- What waiting for the n-th job comes to: `none` when it was not held, and no answer when the
caller would wait. -/
def wait? (s : Session) (n : Nat) : Option (Option (Except PacketError ResendResult)) := do
  let h ← s.held? n
  some ((← s.service? h.service).coordinator.await h.number)

def append (s : Session) (d : Draft) : Except PacketError (PacketId × Session) := do
  let (id, store) ← s.service.store.append d
  return (id, s.withCoordinator { s.service.coordinator with store := store })

end PacketReplay.Session

namespace PacketReplay

inductive OutsideFault where
  | noFile
  | refused
deriving DecidableEq

namespace Session

def changeTable {α : Type} (s : Session) (f : Option Table → Option (α × Option Table)) :
    Except OutsideFault (α × Session) :=
  if s.onDisk then
    match f s.service.store.table with
    | none => .error .refused
    | some (a, table) => .ok (a, s.withTable table)
  else .error .noFile

def evict (s : Session) (id : Int) : Except OutsideFault (Nat × Session) :=
  s.changeTable fun table => do
    let (n, t) := (← table).delete id
    some (n, some t)

def setCell (s : Session) (id : Int) (column : String) (value : Cell) :
    Except OutsideFault (Nat × Session) :=
  s.changeTable fun table => do
    let t ← table
    let (n, t) ← if column = "id" then t.renumber id value
      else t.change id (← Column.ofName? column) value
    some (n, some t)

def dropTable (s : Session) : Except OutsideFault (Bool × Session) :=
  s.changeTable fun table => some (table.isSome, none)

end Session

end PacketReplay
