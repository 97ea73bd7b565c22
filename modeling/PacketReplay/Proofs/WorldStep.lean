import PacketReplay.Proofs.StoreLog
import PacketReplay.Service.World

/-!
# What one event can do

Whatever is said of runs is said of one event first, and what one event can do is listed here once:
a part of a call leaves the coordinator as it is, launches a job, puts a packet in the table or keeps
one in memory, and a step of a job is one of eleven moves. Nothing else happens.
-/

set_option autoImplicit false

namespace PacketReplay

/-- A move of a job with a number over a store: the store and the job after it, and what passed
between the job and the transport. -/
inductive Job.Move (n : Nat) (s : Store) (j : Job) : Store → Job → List Entry → Prop where
  | dispatch (a : Nat) (h : j.phase = .ready a) :
    Move n s j s { j with phase := .sending a } [.sent n a j.request]
  | fail (a : Nat) (h : j.phase = .sending a) (message : String) :
    Move n s j s (j.judge a (.failed message))
      [.replied n a (.delivery (.failed message)) none]
  | drop (a : Nat) (h : j.phase = .sending a) (response : Response) (e : PacketError) :
    Move n s j s (j.judge a (Coordinator.notStored e))
      [.replied n a (.delivery (.delivered response)) none]
  | keep (a : Nat) (h : j.phase = .sending a) (response : Response) (now : Instant) (r : Record)
      (s' : Store) (hi : s.insert (j.draft a response now) = .ok (r, s')) :
    Move n s j s' { j with phase := .keeping a r }
      [.replied n a (.delivery (.delivered response)) (some r)]
  | die (a : Nat) (h : j.phase = .sending a) :
    Move n s j s { j with phase := .dead } [.replied n a .death none]
  | mirror (a : Nat) (r : Record) (h : j.phase = .keeping a r) :
    Move n s j (s.mirror r) (j.judge a (.stored r.id)) []
  | publish (a : Nat) (what : Attempted) (h : j.phase = .judged a what) :
    Move n s j s { j.tally a what with phase := .published a } []
  | next (a : Nat) (h : j.phase = .published a) (hlt : a < j.count.toNat) (hi : j.intervalMs = 0) :
    Move n s j s { j with phase := .ready (a + 1) } []
  | pause (a : Nat) (h : j.phase = .published a) (hlt : a < j.count.toNat) (hi : j.intervalMs ≠ 0) :
    Move n s j s { j with phase := .pausing a j.intervalMs } []
  | finish (a : Nat) (h : j.phase = .published a) (hle : ¬ a < j.count.toNat) (elapsedMs : UInt64) :
    Move n s j s (j.finish elapsedMs) []
  | wake (a : Nat) (ms : UInt64) (h : j.phase = .pausing a ms) :
    Move n s j s { j with phase := .ready (a + 1) } []

namespace Coordinator

def put (c : Coordinator) (n : Nat) (s : Store) (j : Job) : Coordinator :=
  { c with store := s, jobs := c.jobs.modify n fun _ => j }

theorem modify_congr (jobs : Array Job) (n : Nat) (f g : Job → Job)
    (h : ∀ j, jobs[n]? = some j → f j = g j) : jobs.modify n f = jobs.modify n g := by
  apply Array.ext_getElem?
  intro i
  rw [Array.getElem?_modify, Array.getElem?_modify]
  split
  · rename_i hi
    rw [← hi]
    exact Option.map_congr h
  · rfl

theorem modify_self (jobs : Array Job) (n : Nat) (f : Job → Job)
    (h : ∀ j, jobs[n]? = some j → f j = j) : jobs.modify n f = jobs := by
  rw [modify_congr jobs n f (fun j => j) h]
  apply Array.ext_getElem?
  intro i
  rw [Array.getElem?_modify]
  split
  · exact Option.map_id'
  · rfl

theorem change_eq (c : Coordinator) (n : Nat) (j : Job) (h : c.jobs[n]? = some j) (f : Job → Job) :
    c.change n f = c.put n c.store (f j) := by
  rw [change, put, modify_congr c.jobs n f (fun _ => f j)]
  intro i hi
  rw [h] at hi
  cases hi
  rfl

theorem put_self (c : Coordinator) (n : Nat) (j : Job) (h : c.jobs[n]? = some j) :
    c.put n c.store j = c := by
  rw [put, modify_self]
  intro i hi
  rw [h] at hi
  exact Option.some.inj hi

theorem getElem?_put (c : Coordinator) (n : Nat) (s : Store) (j : Job) (m : Nat) :
    (c.put n s j).jobs[m]? = if n = m then c.jobs[m]?.map fun _ => j else c.jobs[m]? :=
  Array.getElem?_modify

end Coordinator

namespace World

def moved (w : World) (n : Nat) (s : Store) (j : Job) (es : List Entry) : World :=
  { w.withCoordinator (w.coordinator.put n s j) with entries := w.entries ++ es }

/-- A step of a job: it does nothing, or the job makes a move. -/
inductive JobStep (w : World) (n : Nat) : World → Prop where
  | idle : JobStep w n w
  | move (j : Job) (hj : w.coordinator.jobs[n]? = some j) (s : Store) (j' : Job) (es : List Entry)
      (hm : Job.Move n w.store j s j' es) : JobStep w n (w.moved n s j' es)

variable (w : World) (n : Nat)

theorem turn_calls (key : Nat) (t : Turn) (k : Nat) :
    (w.turn key t).calls k = if k = key then some t.call else w.calls k := rfl

theorem turn_calls_self (key : Nat) (t : Turn) : (w.turn key t).calls key = some t.call := by
  rw [turn_calls, if_pos rfl]

theorem moved_nil (s : Store) (j : Job) :
    w.moved n s j [] = w.withCoordinator (w.coordinator.put n s j) := by
  rw [moved, List.append_nil]
  rfl

/-- A change of one job that leaves the store alone is a step if it is a move of that job. -/
theorem jobStep_change (f : Job → Job)
    (hf : ∀ j, f j = j ∨ Job.Move n w.store j w.store (f j) []) :
    w.JobStep n (w.withCoordinator (w.coordinator.change n f)) := by
  cases hj : w.coordinator.jobs[n]? with
  | none =>
    have hc : w.coordinator.change n f = w.coordinator := by
      rw [Coordinator.change, Coordinator.modify_self]
      simp [hj]
    rw [hc]
    exact .idle
  | some j =>
    rw [Coordinator.change_eq _ n j hj]
    rcases hf j with he | hm
    · rw [he, Coordinator.put_self _ n j hj]
      exact .idle
    · rw [← moved_nil]
      exact .move j hj _ _ [] hm

theorem jobStep_publish : w.JobStep n (w.withCoordinator (w.coordinator.publish n)) := by
  apply jobStep_change
  intro j
  unfold Job.publish
  split
  · rename_i a what h
    exact .inr (.publish a what h)
  · exact .inl rfl

theorem jobStep_proceed (elapsedMs : UInt64) :
    w.JobStep n (w.withCoordinator (w.coordinator.proceed n elapsedMs)) := by
  apply jobStep_change
  intro j
  unfold Job.proceed
  split
  · rename_i a h
    split
    · rename_i hlt
      split
      · rename_i hi
        exact .inr (.next a h hlt hi)
      · rename_i hi
        exact .inr (.pause a h hlt hi)
    · rename_i hle
      exact .inr (.finish a h hle elapsedMs)
  · exact .inl rfl

theorem jobStep_wake : w.JobStep n (w.withCoordinator (w.coordinator.wake n)) := by
  apply jobStep_change
  intro j
  unfold Job.wake
  split
  · rename_i a ms h
    exact .inr (.wake a ms h)
  · exact .inl rfl

theorem jobStep_mirror : w.JobStep n (w.withCoordinator (w.coordinator.mirror n)) := by
  unfold Coordinator.mirror
  split
  · exact .idle
  · rename_i j hj
    split
    · rename_i a r h
      have hc := Coordinator.change_eq { w.coordinator with store := w.store.mirror r } n j hj
        fun j => j.judge a (.stored r.id)
      change w.JobStep n (w.withCoordinator (Coordinator.change
        { w.coordinator with store := w.store.mirror r } n fun j => j.judge a (.stored r.id)))
      rw [hc]
      change w.JobStep n (w.withCoordinator
        (w.coordinator.put n (w.store.mirror r) (j.judge a (.stored r.id))))
      rw [← moved_nil]
      exact .move j hj _ _ [] (.mirror a r h)
    · exact .idle

theorem dispatch_eq (j : Job) (hj : w.coordinator.jobs[n]? = some j) (a : Nat)
    (h : j.phase = .ready a) :
    w.dispatch n = w.moved n w.store { j with phase := .sending a } [.sent n a j.request] := by
  have hd : j.dispatch = { j with phase := .sending a } := by rw [Job.dispatch, h]
  simp only [dispatch, hj, h]
  rw [Coordinator.dispatch, Coordinator.change_eq _ n j hj, hd]
  rfl

theorem jobStep_dispatch : w.JobStep n (w.dispatch n) := by
  unfold dispatch
  split
  · exact .idle
  · rename_i j hj
    split
    · rename_i a h
      have he := w.dispatch_eq n j hj a h
      simp only [dispatch, hj, h] at he
      rw [he]
      exact .move j hj _ _ _ (.dispatch a h)
    · exact .idle

theorem stored?_put (c : Coordinator) (j : Job) (hj : c.jobs[n]? = some j) (s : Store) (j' : Job) :
    stored? (c.put n s j') n =
      match j'.phase with
      | .keeping _ r => some r
      | _ => none := by
  rw [stored?, Coordinator.getElem?_put, if_pos rfl, hj]
  rfl

theorem receive_death_eq (j : Job) (hj : w.coordinator.jobs[n]? = some j) (a : Nat)
    (h : j.phase = .sending a) (now : Instant) (refusal : Option (List String)) :
    w.receive n .death now refusal =
      w.moved n w.store { j with phase := .dead } [.replied n a .death none] := by
  have hd : j.die = { j with phase := .dead } := by
    rw [Job.die, if_neg]
    simp [Job.isOver, h]
  have hc : w.coordinator.receive n .death now refusal =
      w.coordinator.put n w.store { j with phase := .dead } := by
    rw [← hd]
    simp only [Coordinator.receive, hj, h]
    exact Coordinator.change_eq _ n j hj _
  simp only [receive, hj, h, hc, stored?_put n _ j hj]
  rfl

theorem jobStep_receive (reply : Reply) (now : Instant) (refusal : Option (List String)) :
    w.JobStep n (w.receive n reply now refusal) := by
  unfold receive
  split
  · exact .idle
  · rename_i j hj
    split
    · rename_i a h
      cases reply with
      | death =>
        have he := w.receive_death_eq n j hj a h now refusal
        simp only [receive, hj, h] at he
        rw [he]
        exact .move j hj _ _ _ (.die a h)
      | delivery d =>
        cases d with
        | failed message =>
          have hc : w.coordinator.receive n (.delivery (.failed message)) now refusal =
              w.coordinator.put n w.store (j.judge a (.failed message)) := by
            simp only [Coordinator.receive, hj, h]
            exact Coordinator.change_eq _ n j hj _
          simp only [hc, stored?_put n _ j hj]
          exact .move j hj _ _ _ (.fail a h message)
        | delivered response =>
          have hr : w.coordinator.receive n (.delivery (.delivered response)) now refusal =
              w.coordinator.keep n j a response now refusal := by
            simp only [Coordinator.receive, hj, h]
          cases hi : w.coordinator.store.insertUnless refusal (j.draft a response now) with
          | error e =>
            have hc : w.coordinator.keep n j a response now refusal =
                w.coordinator.put n w.store (j.judge a (Coordinator.notStored e)) := by
              simp only [Coordinator.keep, hi]
              exact Coordinator.change_eq _ n j hj _
            simp only [hr, hc, stored?_put n _ j hj]
            exact .move j hj _ _ _ (.drop a h response e)
          | ok p =>
            obtain ⟨r, s⟩ := p
            have hc : w.coordinator.keep n j a response now refusal =
                w.coordinator.put n s { j with phase := .keeping a r } := by
              simp only [Coordinator.keep, hi]
              exact Coordinator.change_eq { w.coordinator with store := s } n j hj _
            have hs : w.store.insert (j.draft a response now) = .ok (r, s) := by
              cases refusal with
              | none => exact hi
              | some causes => cases hi
            simp only [hr, hc, stored?_put n _ j hj]
            exact .move j hj _ _ _ (.keep a h response now r s hs)
    · exact .idle

end World

/-- What a part of a call can come to: of one that is made, or of one that stood somewhere. -/
inductive Service.Turns (ids : Nat → JobId) (s : Service) (before : Ask ⊕ Call) : Turn → Prop where
  | quiet (call : Call) (answer : Option Answer) (hk : ∀ r, call ≠ .keeping r)
      (hf : ∀ job m, call = .finding job m →
        job.count ≠ 0 ∨ ∃ m', before = .inr (.finding job m'))
      (hl : ∀ mode n, call = .launched mode n → before = .inr (.launched mode n))
      (ha : answer.isSome → call = .answered) :
    Turns ids s before ⟨call, answer, s.coordinator⟩
  | launch (job : ResendJob) (m : Bool) (h : before = .inr (.finding job m)) (source edited : Record)
      (he : applyRules source job.rules job.policy = .ok edited) :
    Turns ids s before ⟨.launched job.mode s.coordinator.jobs.size, none,
      (s.coordinator.enlist (ids s.coordinator.jobs.size) job source.id (.ofRecord edited)).2⟩
  | insert (d : Draft) (refusal : Option (List String)) (h : before = .inl (.append d refusal))
      (r : Record) (store : Store) (hi : s.store.insert d = .ok (r, store)) :
    Turns ids s before ⟨.keeping r, none, { s.coordinator with store := store }⟩
  | mirror (r : Record) (h : before = .inr (.keeping r)) :
    Turns ids s before ⟨.answered, some (.append (.ok r.id)),
      { s.coordinator with store := s.store.mirror r }⟩

namespace Service

variable (ids : Nat → JobId) (s : Service)

theorem turns_tell (before : Ask ⊕ Call) (a : Answer) : s.Turns ids before (s.tell a) :=
  .quiet .answered (some a) (by simp) (by simp) (by simp) (fun _ => rfl)

theorem turns_accept (a : Ask) (job : ResendJob) : s.Turns ids (.inl a) (s.accept job) := by
  unfold accept
  split
  · exact s.turns_tell ids _ _
  · rename_i h
    refine .quiet (.finding job true) none (by simp) ?_ (by simp) (by simp)
    intro job' m hj
    cases hj
    exact .inl h

theorem turns_start (a : Ask) : s.Turns ids (.inl a) (s.start a) := by
  cases a with
  | history p =>
    simp only [start]
    split
    · exact s.turns_tell ids _ _
    · exact .quiet _ none (by simp) (by simp) (by simp) (by simp)
  | config p => exact s.turns_tell ids _ _
  | detail p =>
    simp only [start]
    split
    · exact s.turns_tell ids _ _
    · exact .quiet _ none (by simp) (by simp) (by simp) (by simp)
  | resend p =>
    simp only [start]
    split
    · exact s.turns_tell ids _ _
    · exact s.turns_accept ids _ _
  | execute job => exact s.turns_accept ids _ job
  | append d refusal =>
    simp only [start]
    split
    · exact s.turns_tell ids _ _
    · rename_i r store hi
      refine .insert d refusal rfl r store ?_
      cases refusal with
      | none => exact hi
      | some causes => cases hi

theorem turns_resume (call : Call) : s.Turns ids (.inr call) (s.resume ids call) := by
  cases call with
  | listing page f o => exact s.turns_tell ids _ _
  | reading id includeBody inMemory =>
    simp only [resume]
    split
    · exact .quiet _ none (by simp) (by simp) (by simp) (by simp)
    · exact s.turns_tell ids _ _
  | finding job inMemory =>
    simp only [resume]
    split
    · refine .quiet (.finding job false) none (by simp) ?_ (by simp) (by simp)
      intro job' m hj
      cases hj
      exact .inr ⟨inMemory, rfl⟩
    · exact s.turns_tell ids _ _
    · rename_i source hs
      cases he : applyRules source job.rules job.policy with
      | error e =>
        simp only [Coordinator.startOn, he]
        exact s.turns_tell ids _ _
      | ok edited =>
        simp only [Coordinator.startOn, he]
        exact .launch job inMemory rfl source edited he
  | launched mode number =>
    have hgo : s.Turns ids (.inr (.launched mode number)) (s.goOn (.launched mode number)) := by
      refine .quiet _ none (by simp) (by simp) ?_ (by simp)
      intro mode' n hl
      cases hl
      rfl
    cases mode with
    | sync =>
      simp only [resume]
      split
      · exact hgo
      · exact s.turns_tell ids _ _
      · exact s.turns_tell ids _ _
    | async =>
      simp only [resume]
      split
      · exact hgo
      · exact s.turns_tell ids _ _
  | keeping r => exact .mirror r rfl
  | answered => exact .quiet .answered none (by simp) (by simp) (by simp) (fun _ => rfl)

end Service

inductive World.Effect (ids : Nat → JobId) (w : World) (e : Event) : World → Prop where
  | idle : Effect ids w e w
  | ask (key : Nat) (a : Ask) (he : e = .ask key a) (h : w.calls key = none) (t : Turn)
      (ht : w.service.Turns ids (.inl a) t) : Effect ids w e (w.turn key t)
  | advance (key : Nat) (call : Call) (h : w.calls key = some call) (t : Turn)
      (ht : w.service.Turns ids (.inr call) t) : Effect ids w e (w.turn key t)
  | job (n : Nat) (w' : World) (h : w.JobStep n w') : Effect ids w e w'

/-- **What one event can do.** -/
theorem World.step_effect (ids : Nat → JobId) (w : World) (e : Event) :
    w.Effect ids e (w.step ids e).2 := by
  cases e with
  | ask key a =>
    simp only [World.step]
    split
    · exact .idle
    · rename_i h
      exact .ask key a rfl h _ (w.service.turns_start ids a)
  | advance key =>
    simp only [World.step]
    split
    · exact .idle
    · rename_i call h
      exact .advance key call h _ (w.service.turns_resume ids call)
  | dispatch n => exact .job n _ (w.jobStep_dispatch n)
  | receive n reply now refusal => exact .job n _ (w.jobStep_receive n reply now refusal)
  | mirror n => exact .job n _ (w.jobStep_mirror n)
  | publish n => exact .job n _ (w.jobStep_publish n)
  | proceed n elapsedMs => exact .job n _ (w.jobStep_proceed n elapsedMs)
  | wake n => exact .job n _ (w.jobStep_wake n)

section

variable (ids : Nat → JobId) (w : World) (e : Event)

theorem Service.Turns.job {s : Service} {before : Ask ⊕ Call} {t : Turn}
    (h : s.Turns ids before t) (n : Nat) (j : Job) (hj : s.coordinator.jobs[n]? = some j) :
    t.coordinator.jobs[n]? = some j := by
  cases h with
  | launch =>
    change (s.coordinator.jobs.push _)[n]? = some j
    rw [Array.getElem?_push, if_neg, hj]
    exact Nat.ne_of_lt (Array.getElem?_eq_some_iff.mp hj).1
  | quiet => exact hj
  | insert => exact hj
  | mirror => exact hj

theorem World.step_job (n : Nat) (j : Job) (hj : w.coordinator.jobs[n]? = some j) :
    ∃ j', (w.step ids e).2.coordinator.jobs[n]? = some j' ∧
      (j' = j ∨ ∃ s es, Job.Move n w.store j s j' es) := by
  have heff := w.step_effect ids e
  generalize (w.step ids e).2 = w' at heff
  cases heff with
  | idle => exact ⟨j, hj, .inl rfl⟩
  | ask key a _ _ t ht => exact ⟨j, ht.job ids n j hj, .inl rfl⟩
  | advance key call _ t ht => exact ⟨j, ht.job ids n j hj, .inl rfl⟩
  | job m w' hstep =>
    cases hstep with
    | idle => exact ⟨j, hj, .inl rfl⟩
    | move i hi s i' es hm =>
      change ∃ j', (w.coordinator.put m s i').jobs[n]? = some j' ∧ _
      rw [Coordinator.getElem?_put]
      split
      · rename_i hmn
        obtain rfl := hmn
        rw [hj] at hi
        cases hi
        exact ⟨i', by rw [hj]; rfl, .inr ⟨s, es, hm⟩⟩
      · exact ⟨j, hj, .inl rfl⟩

theorem World.step_known :
    ((w.step ids e).2.coordinator.registry = w.coordinator.registry ∧
      (w.step ids e).2.coordinator.jobs.size = w.coordinator.jobs.size) ∨
    ∃ job source request, (w.step ids e).2.coordinator =
      (w.coordinator.enlist (ids w.coordinator.jobs.size) job source request).2 := by
  have heff := w.step_effect ids e
  generalize (w.step ids e).2 = w' at heff
  have hturn : ∀ b key t, w.service.Turns ids b t →
      ((w.turn key t).coordinator.registry = w.coordinator.registry ∧
        (w.turn key t).coordinator.jobs.size = w.coordinator.jobs.size) ∨
      ∃ job source request, (w.turn key t).coordinator =
        (w.coordinator.enlist (ids w.coordinator.jobs.size) job source request).2 := by
    intro b key t ht
    cases ht with
    | launch job m h source edited he => exact .inr ⟨job, source.id, .ofRecord edited, rfl⟩
    | quiet => exact .inl ⟨rfl, rfl⟩
    | insert => exact .inl ⟨rfl, rfl⟩
    | mirror => exact .inl ⟨rfl, rfl⟩
  cases heff with
  | idle => exact .inl ⟨rfl, rfl⟩
  | ask key a _ _ t ht => exact hturn _ key t ht
  | advance key call _ t ht => exact hturn _ key t ht
  | job m w' hstep =>
    cases hstep with
    | idle => exact .inl ⟨rfl, rfl⟩
    | move i hi s i' es hm => exact .inl ⟨rfl, Array.size_modify⟩

theorem World.step_table :
    (w.step ids e).2.store.table = w.store.table ∨
    ∃ d r s, w.store.insert d = .ok (r, s) ∧ (w.step ids e).2.store.table = s.table := by
  have heff := w.step_effect ids e
  generalize (w.step ids e).2 = w' at heff
  have hturn : ∀ b key t, w.service.Turns ids b t →
      (w.turn key t).store.table = w.store.table ∨
      ∃ d r s, w.store.insert d = .ok (r, s) ∧ (w.turn key t).store.table = s.table := by
    intro b key t ht
    cases ht with
    | insert d refusal _ r s hi => exact .inr ⟨d, r, s, hi, rfl⟩
    | quiet => exact .inl rfl
    | launch => exact .inl rfl
    | mirror => exact .inl rfl
  cases heff with
  | idle => exact .inl rfl
  | ask key a _ _ t ht => exact hturn _ key t ht
  | advance key call _ t ht => exact hturn _ key t ht
  | job m w' hstep =>
    cases hstep with
    | idle => exact .inl rfl
    | move i _ s i' es hm =>
      cases hm with
      | keep a _ response now r s hi => exact .inr ⟨_, r, s, hi, rfl⟩
      | dispatch | fail | drop | die | mirror | publish | next | pause | finish | wake =>
        exact .inl rfl

end

theorem World.run_append (ids : Nat → JobId) (es es' : List Event) (w : World) :
    (World.run ids w (es ++ es')).2 = (World.run ids (World.run ids w es).2 es').2 := by
  induction es generalizing w with
  | nil => rfl
  | cons e es ih => exact ih (w.step ids e).2

theorem World.run_trace_append (ids : Nat → JobId) (es es' : List Event) (w : World) :
    (World.run ids w (es ++ es')).1 =
      (World.run ids w es).1 ++ (World.run ids (World.run ids w es).2 es').1 := by
  induction es generalizing w with
  | nil => rfl
  | cons e es ih => exact congrArg ((e, (w.step ids e).1) :: ·) (ih (w.step ids e).2)

end PacketReplay
