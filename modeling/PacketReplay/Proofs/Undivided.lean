import PacketReplay.Proofs.Erasure
import PacketReplay.Session.Calls

set_option autoImplicit false

namespace PacketReplay

def Session.ids (n : Nat) : JobId :=
  jobId (n + 1)

/-- A world runs to another, and callers are told these answers on the way. -/
def World.Goes (w : World) (told : List Answer) (w' : World) : Prop :=
  ∃ es, (World.run Session.ids w es).2 = w' ∧
    (World.run Session.ids w es).1.filterMap Prod.snd = told

namespace World.Goes

theorem refl (w : World) : w.Goes [] w :=
  ⟨[], rfl, rfl⟩

theorem step (w : World) (e : Event) :
    w.Goes (w.step Session.ids e).1.toList (w.step Session.ids e).2 := by
  refine ⟨[e], rfl, ?_⟩
  change List.filterMap Prod.snd [(e, (w.step Session.ids e).1)] = _
  cases (w.step Session.ids e).1 <;> rfl

theorem trans {w w' w'' : World} {told told' : List Answer} (h : w.Goes told w')
    (h' : w'.Goes told' w'') : w.Goes (told ++ told') w'' := by
  obtain ⟨es, rfl, rfl⟩ := h
  obtain ⟨es', rfl, rfl⟩ := h'
  refine ⟨es ++ es', World.run_append _ es es' w, ?_⟩
  rw [World.run_trace_append, List.filterMap_append]

end World.Goes

/-- Turns of a call, one after the other, up to the first that gives an answer or earlier. -/
inductive Service.Leads (s : Service) : Turn → Turn → Prop where
  | stop (t : Turn) : Leads s t t
  | next (t t' : Turn) (ha : t.answer = none)
      (h : Leads s (Service.resume Session.ids { s with coordinator := t.coordinator } t.call) t') :
    Leads s t t'

namespace World

variable (w : World) (key : Nat)

theorem turn_turn (t t' : Turn) : (w.turn key t).turn key t' = w.turn key t' := by
  have hcalls : ((w.turn key t).turn key t').calls = (w.turn key t').calls := by
    funext k
    change (if k = key then _ else if k = key then _ else w.calls k) = if k = key then _ else _
    split <;> rfl
  exact congrArg (World.mk _ · _) hcalls

theorem goes_advance (call : Call) (hc : w.calls key = some call) :
    w.Goes (w.service.resume Session.ids call).answer.toList
      (w.turn key (w.service.resume Session.ids call)) := by
  have h := Goes.step w (.advance key)
  simp only [step, hc] at h
  exact h

theorem goes_leads {t t' : Turn} (h : w.service.Leads t t') :
    ∃ told, (w.turn key t).Goes told (w.turn key t') ∧
      t.answer.toList ++ told = t'.answer.toList := by
  induction h with
  | stop t => exact ⟨[], .refl _, List.append_nil _⟩
  | next t t' ha _ ih =>
    obtain ⟨told, hgoes, hanswers⟩ := ih
    have hadvance := (w.turn key t).goes_advance key t.call (w.turn_calls_self key t)
    rw [turn_turn] at hadvance
    refine ⟨_, hadvance.trans hgoes, ?_⟩
    rw [ha]
    exact hanswers

/-- A call that nothing comes between takes the turns that it leads to. -/
theorem goes_call (hc : w.calls key = none) (a : Ask) (t : Turn)
    (h : w.service.Leads (w.service.start a) t) : w.Goes t.answer.toList (w.turn key t) := by
  obtain ⟨told, hgoes, hanswers⟩ := w.goes_leads key h
  have hask := Goes.step w (.ask key a)
  simp only [step, hc] at hask
  rw [← hanswers]
  exact hask.trans hgoes

end World

namespace Service

variable (s : Service)

theorem leads_history (p : HistoryParams) :
    s.Leads (s.start (.history p)) (s.tell (.history (s.history p))) := by
  simp only [start, history]
  cases p.query with
  | error e => exact .stop _
  | ok q => exact .next _ _ rfl (.stop _)

theorem leads_config (p : ConfigParams) :
    s.Leads (s.start (.config p)) (s.tell (.config (s.config p))) :=
  .stop _

theorem leads_detail (p : DetailParams) :
    s.Leads (s.start (.detail p)) (s.tell (.detail (s.detail p))) := by
  simp only [start, detail]
  cases packetId p.packetId with
  | error e => exact .stop _
  | ok id =>
    refine .next _ _ rfl ?_
    change s.Leads (s.resume Session.ids (.reading id p.includeBody true))
      (s.tell (.detail ((s.store.look true id p.includeBody).getD _)))
    simp only [resume]
    cases s.store.look true id p.includeBody with
    | some r => exact .stop _
    | none => exact .next _ _ rfl (.stop _)

/-- What a call to run a job has come to once the job is launched or refused. -/
def launched (job : ResendJob) : Except PacketError (Nat × Coordinator) → Turn
  | .error e => s.tell (.resend (.error e))
  | .ok (number, c) => ⟨.launched job.mode number, none, c⟩

theorem leads_finding (job : ResendJob) (inMemory : Bool) (r : Except PacketError Record)
    (h : s.store.look inMemory job.source true = some r) :
    s.resume Session.ids (.finding job inMemory) =
      s.launched job
        (r.bind (s.coordinator.startOn (Session.ids s.coordinator.jobs.size) job)) := by
  simp only [resume, h]
  cases r with
  | error e => rfl
  | ok source =>
    simp only [Except.bind]
    cases s.coordinator.startOn (Session.ids s.coordinator.jobs.size) job source with
    | error e => rfl
    | ok p => rfl

theorem leads_accept (job : ResendJob) : s.Leads (s.accept job)
    (s.launched job (s.coordinator.launch (Session.ids s.coordinator.jobs.size) job)) := by
  unfold accept Coordinator.launch
  split
  · exact .stop _
  · refine .next _ _ rfl ?_
    change s.Leads (s.resume Session.ids (.finding job true)) _
    cases hl : s.store.look true job.source true with
    | some r =>
      rw [s.leads_finding job true r hl, Store.get]
      rw [show s.coordinator.store.look true job.source true = some r from hl]
      cases r with
      | error e => exact .stop _
      | ok source => exact .stop _
    | none =>
      have hgo : s.resume Session.ids (.finding job true) = s.goOn (.finding job false) := by
        simp only [resume, hl]
      rw [hgo, Store.get, show s.coordinator.store.look true job.source true = none from hl]
      refine .next _ _ rfl ?_
      change s.Leads (s.resume Session.ids (.finding job false)) _
      rw [s.leads_finding job false _ rfl, Option.getD_none]
      have hstore : s.coordinator.store = s.store := rfl
      rw [hstore]
      cases s.store.getStored job.source true with
      | error e => exact .stop _
      | ok source => exact .stop _

theorem leads_resend (p : ResendParams) : s.Leads (s.start (.resend p))
    (match s.resendJob p with
      | .error e => s.tell (.resend (.error e))
      | .ok job => s.launched job
        (s.coordinator.launch (Session.ids s.coordinator.jobs.size) job)) := by
  simp only [start]
  cases s.resendJob p with
  | error e => exact .stop _
  | ok job => exact s.leads_accept job

theorem leads_append (d : Draft) (refusal : Option (List String)) :
    s.Leads (s.start (.append d refusal))
      (match s.store.appendUnless refusal d with
        | .error e => s.tell (.append (.error e))
        | .ok (id, store) =>
          ⟨.answered, some (.append (.ok id)), { s.coordinator with store := store }⟩) := by
  simp only [start, Store.appendUnless]
  cases s.store.insertUnless refusal d with
  | error e => exact .stop _
  | ok p => exact .next _ _ rfl (.stop _)

end Service

namespace World

variable (w : World) (n : Nat)

theorem dispatch_service :
    (w.dispatch n).service = (w.withCoordinator (w.coordinator.dispatch n)).service := by
  have hstay : (∀ j, w.coordinator.jobs[n]? = some j → j.dispatch = j) →
      w.coordinator.dispatch n = w.coordinator := by
    intro h
    rw [Coordinator.dispatch, Coordinator.change, Coordinator.modify_self _ _ _ h]
  unfold dispatch
  split
  · rename_i hn
    rw [hstay fun j hj => by rw [hn] at hj; cases hj]
    rfl
  · rename_i j hj
    split
    · rfl
    · rename_i hp
      rw [hstay]
      · rfl
      · intro i hi
        rw [hj] at hi
        cases hi
        unfold Job.dispatch
        split
        · rename_i a ha
          exact absurd ha (hp a)
        · rfl

theorem receive_service (reply : Reply) (now : Instant) (refusal : Option (List String)) :
    (w.receive n reply now refusal).service =
      (w.withCoordinator (w.coordinator.receive n reply now refusal)).service := by
  unfold receive
  split
  · rename_i hn
    rw [Coordinator.receive, hn]
    rfl
  · rename_i j hj
    split
    · rfl
    · rename_i hp
      have hstay : w.coordinator.receive n reply now refusal = w.coordinator := by
        simp only [Coordinator.receive, hj]
        split
        · exact absurd ‹_› (hp _)
        · exact absurd ‹_› (hp _)
        · exact absurd ‹_› (hp _)
        · rfl
      rw [hstay]
      rfl

/-- Events that are no parts of calls tell nobody anything and leave calls where they stand. -/
theorem goes_jobs (es : List Event) (h : ∀ e ∈ es, e.key? = none) :
    w.Goes [] (World.run Session.ids w es).2 ∧
      (World.run Session.ids w es).2.coordinator.jobs.size = w.coordinator.jobs.size ∧
      (World.run Session.ids w es).2.calls = w.calls := by
  induction es generalizing w with
  | nil => exact ⟨.refl w, rfl, rfl⟩
  | cons e es ih =>
    obtain ⟨he, hes⟩ := List.forall_mem_cons.mp h
    obtain ⟨hnone, n, hstep⟩ := w.step_jobStep Session.ids e he
    obtain ⟨hgoes, hsize, hcalls⟩ := ih (w.step Session.ids e).2 hes
    have hfirst := Goes.step w e
    rw [hnone] at hfirst
    exact ⟨hfirst.trans hgoes, hsize.trans hstep.size_eq, hcalls.trans hstep.calls_eq⟩

theorem run_attempt (reply : Reply) (now : Instant) (elapsedMs : UInt64) :
    (World.run Session.ids w [.dispatch n, .receive n reply now none, .mirror n, .publish n,
      .proceed n elapsedMs]).2.service =
      (w.withCoordinator (w.coordinator.attempt n reply now elapsedMs)).service := by
  have hreceived : ((w.dispatch n).receive n reply now none).service =
      (w.withCoordinator ((w.coordinator.dispatch n).receive n reply now none)).service := by
    rw [receive_service, withCoordinator, coordinator, dispatch_service]
    rfl
  have hrest : ∀ w' : World,
      (World.run Session.ids w' [.mirror n, .publish n, .proceed n elapsedMs]).2.service =
        (w'.withCoordinator
          (((w'.coordinator.mirror n).publish n).proceed n elapsedMs)).service := fun _ => rfl
  change (World.run Session.ids ((w.dispatch n).receive n reply now none)
    [.mirror n, .publish n, .proceed n elapsedMs]).2.service = _
  rw [hrest, withCoordinator, coordinator, hreceived]
  rfl

end World

end PacketReplay
