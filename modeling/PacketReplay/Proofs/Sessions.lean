import PacketReplay.Proofs.Undivided

/-!
# What a session does is a run of a world

A session runs one thing after another, so that all it does is one of the runs of a world over the
same service, and what is shown of all runs holds of it. The service is the first of its session:
one that was opened again has others beside it.
-/

set_option autoImplicit false

namespace PacketReplay

/-- A world over the one service of a session, with keys left for more calls. -/
structure World.Serves (w : World) (s : Session) : Prop where
  service : w.service = s.service
  alone : s.earlier = #[]
  launched : s.launched.size = s.service.coordinator.jobs.size
  fresh : ∃ bound, ∀ key, bound ≤ key → w.calls key = none

/-- What a session does between calls is a run of every world over its service. -/
def Session.Works (s s' : Session) : Prop :=
  ∀ w : World, w.Serves s → ∃ w', w.Goes [] w' ∧ w'.Serves s' ∧ w'.calls = w.calls

namespace Session

theorem Works.trans {s s' s'' : Session} (h : s.Works s') (h' : s'.Works s'') : s.Works s'' := by
  intro w hw
  obtain ⟨w', hgoes, hserves, hcalls⟩ := h w hw
  obtain ⟨w'', hgoes', hserves', hcalls'⟩ := h' w' hserves
  exact ⟨w'', hgoes.trans hgoes', hserves', hcalls'.trans hcalls⟩

/-- Nothing of a session but its service, those before it and its jobs shows in a world. -/
theorem works_of_eq (s s' : Session) (hservice : s'.service = s.service)
    (hearlier : s'.earlier = s.earlier) (hlaunched : s'.launched = s.launched) : s.Works s' := by
  intro w hw
  refine ⟨w, .refl w, ⟨?_, ?_, ?_, hw.fresh⟩, rfl⟩
  · rw [hservice, hw.service]
  · rw [hearlier, hw.alone]
  · rw [hlaunched, hservice, hw.launched]

theorem Works.refl (s : Session) : s.Works s :=
  works_of_eq s s rfl rfl rfl

theorem works_change (s : Session) (number : Nat) (f : Coordinator → Coordinator)
    (es : List Event) (hes : ∀ e ∈ es, e.key? = none)
    (hrun : ∀ w : World, (World.run Session.ids w es).2.service =
      (w.withCoordinator (f w.coordinator)).service) :
    s.Works (s.changeCoordinator number f) := by
  intro w hw
  rw [changeCoordinator]
  split
  · obtain ⟨hgoes, hsize, hcalls⟩ := w.goes_jobs es hes
    have hservice : (World.run Session.ids w es).2.service =
        (s.withCoordinator (f s.service.coordinator)).service := by
      rw [hrun, World.withCoordinator, World.coordinator, hw.service]
      rfl
    refine ⟨_, hgoes, ⟨hservice, hw.alone, ?_, hcalls ▸ hw.fresh⟩, hcalls⟩
    rw [← hservice]
    exact hw.launched.trans (hw.service ▸ hsize.symm)
  · have hnone : s.earlier[number]? = none := by
      rw [hw.alone]
      rfl
    rw [hnone]
    exact ⟨w, .refl w, hw, rfl⟩

theorem works_send (s : Session) (h : Handle) (request : OutboundRequest) :
    s.Works (s.send h request) := by
  have hsent := works_of_eq s
    { s with sends := s.sends + 1, sent := s.sent.push ⟨s.elapsedMs, request⟩ } rfl rfl rfl
  have hattempt := works_change
    { s with sends := s.sends + 1, sent := s.sent.push ⟨s.elapsedMs, request⟩ } h.service
    (fun c => c.attempt h.number (s.transport s.sends request) s.now 0)
    [.dispatch h.number, .receive h.number (s.transport s.sends request) s.now none,
      .mirror h.number, .publish h.number, .proceed h.number 0]
  exact hsent.trans (hattempt (by simp [Event.key?])
    fun w => w.run_attempt h.number (s.transport s.sends request) s.now 0)

theorem works_rest (s : Session) (h : Handle) : s.Works (s.rest h) := by
  unfold rest
  split
  · split
    · rename_i attempt ms _
      have hclock := works_of_eq s { s with elapsedMs := s.elapsedMs + ms.toNat } rfl rfl rfl
      refine hclock.trans (works_change _ _ _ [.wake h.number] ?_ fun w => rfl)
      simp [Event.key?]
    · exact .refl s
  · exact .refl s

theorem works_queue (s : Session) (h : Handle) : s.Works (s.queue h) := by
  refine (s.works_rest h).trans ?_
  rw [queue]
  split
  · exact works_of_eq _ _ rfl rfl rfl
  · exact .refl _

theorem works_run (s : Session) (h : Handle) (sends : Nat) : s.Works (run sends s h) := by
  induction sends generalizing s with
  | zero => exact .refl s
  | succ sends ih =>
    refine (s.works_rest h).trans ?_
    rw [run]
    split
    · exact (works_send _ h _).trans (ih _)
    · exact .refl _

theorem works_settle (s : Session) (h : Handle) : s.Works (s.settle h) := by
  unfold settle
  split
  · exact s.works_queue h
  · split
    · exact s.works_run h _
    · exact .refl s

theorem works_permit (s : Session) : s.Works s.permit := by
  unfold permit
  split
  · exact .refl s
  · rename_i h rest _
    refine Works.trans (works_of_eq s { s with waiting := rest } rfl rfl rfl) ?_
    dsimp only
    split
    · exact (works_send _ h _).trans (works_settle _ h)
    · exact .refl _

theorem works_release (s : Session) (n : Nat) : s.Works (release n s) := by
  induction n generalizing s with
  | zero => exact .refl s
  | succ n ih =>
    unfold release
    split
    · exact .refl s
    · exact s.works_permit.trans (ih _)

/-- What a session does is a run of every world over its service, with these answers. -/
def Does (s : Session) (told : List Answer) (s' : Session) : Prop :=
  ∀ w : World, w.Serves s → ∃ w', w.Goes told w' ∧ w'.Serves s'

theorem Works.does {s s' : Session} (h : s.Works s') : s.Does [] s' := by
  intro w hw
  obtain ⟨w', hgoes, hserves, -⟩ := h w hw
  exact ⟨w', hgoes, hserves⟩

theorem Does.trans {s s' s'' : Session} {told told' : List Answer} (h : s.Does told s')
    (h' : s'.Does told' s'') : s.Does (told ++ told') s'' := by
  intro w hw
  obtain ⟨w', hgoes, hserves⟩ := h w hw
  obtain ⟨w'', hgoes', hserves'⟩ := h' w' hserves
  exact ⟨w'', hgoes.trans hgoes', hserves'⟩

theorem fresh_turn {w : World} {s : Session} (hw : w.Serves s) (key : Nat) (t : Turn) :
    ∃ bound, ∀ k, bound ≤ k → (w.turn key t).calls k = none := by
  obtain ⟨bound, hbound⟩ := hw.fresh
  refine ⟨max bound (key + 1), fun k hk => ?_⟩
  rw [w.turn_calls, if_neg (by omega), hbound k (by omega)]

theorem does_tell (s : Session) (a : Ask) (answer : Answer)
    (h : s.service.Leads (s.service.start a) (s.service.tell answer)) : s.Does [answer] s := by
  intro w hw
  obtain ⟨key, hkey⟩ := hw.fresh
  rw [← hw.service] at h
  have hservice : (w.turn key (w.service.tell answer)).service = w.service := rfl
  exact ⟨_, w.goes_call key (hkey key le_rfl) a _ h,
    hservice.trans hw.service, hw.alone, hw.launched, fresh_turn hw key _⟩

theorem does_append (s : Session) (d : Draft) :
    match s.append d with
    | .error e => s.Does [.append (.error e)] s
    | .ok (id, t) => s.Does [.append (.ok id)] t := by
  have hleads := s.service.leads_append d none
  rw [append, Store.append]
  cases h : s.service.store.appendUnless none d with
  | error e =>
    rw [h] at hleads
    exact s.does_tell _ _ hleads
  | ok p =>
    obtain ⟨id, store⟩ := p
    rw [h] at hleads
    intro w hw
    obtain ⟨key, hkey⟩ := hw.fresh
    rw [← hw.service] at hleads
    refine ⟨_, w.goes_call key (hkey key le_rfl) _ _ hleads, ?_, hw.alone, hw.launched,
      fresh_turn hw key _⟩
    rw [World.turn, World.withCoordinator, hw.service]
    rfl

def enlisted (s : Session) (c : Coordinator) : Session :=
  { s with
    service := { s.service with coordinator := c }
    launched := s.launched.push ⟨s.earlier.size, s.service.coordinator.jobs.size⟩ }

theorem launch_eq (s : Session) (h : s.launched.size = s.service.coordinator.jobs.size)
    (job : ResendJob) : s.launch job =
      match s.service.coordinator.launch (ids s.service.coordinator.jobs.size) job with
      | .error e => .error e
      | .ok (_, c) =>
        let h : Handle := ⟨s.earlier.size, s.service.coordinator.jobs.size⟩
        .ok (h, ((s.enlisted c).job? h).map Job.progress, (s.enlisted c).settle h) := by
  rw [launch, Service.launch, h, ids]
  cases s.service.coordinator.launch (jobId (s.service.coordinator.jobs.size + 1)) job <;> rfl

theorem size_of_launch {c c' : Coordinator} {id : JobId} {job : ResendJob} {number : Nat}
    (h : c.launch id job = .ok (number, c')) :
    number = c.jobs.size ∧ c'.jobs.size = c.jobs.size + 1 := by
  unfold Coordinator.launch at h
  split at h
  · cases h
  · split at h
    · cases h
    · unfold Coordinator.startOn at h
      split at h
      · cases h
      · cases h
        exact ⟨rfl, Array.size_push _⟩

/-- A call to launch a job is refused, or stands at the launched job. -/
theorem goes_launch {w : World} {s : Session} (hw : w.Serves s) (a : Ask) (job : ResendJob)
    (h : s.service.Leads (s.service.start a) (s.service.launched job
      (s.service.coordinator.launch (ids s.service.coordinator.jobs.size) job))) :
    (∃ e, s.launch job = .error e ∧ s.Does [.resend (.error e)] s) ∨
    ∃ t handle key w', s.launch job =
        .ok (handle, (t.job? handle).map Job.progress, t.settle handle) ∧
      w.Goes [] w' ∧ w'.Serves t ∧ handle.service = t.earlier.size ∧
      w'.calls key = some (.launched job.mode handle.number) := by
  rw [s.launch_eq hw.launched job]
  cases hc : s.service.coordinator.launch (ids s.service.coordinator.jobs.size) job with
  | error e =>
    rw [hc] at h
    exact .inl ⟨e, rfl, s.does_tell a _ h⟩
  | ok p =>
    obtain ⟨number, c⟩ := p
    obtain ⟨rfl, hsize⟩ := size_of_launch hc
    rw [hc, ← hw.service] at h
    obtain ⟨key, hkey⟩ := hw.fresh
    refine .inr ⟨s.enlisted c, _, key, _, rfl, w.goes_call key (hkey key le_rfl) a _ h,
      ⟨?_, hw.alone, ?_, fresh_turn hw key _⟩, rfl, ?_⟩
    · rw [World.turn, World.withCoordinator, hw.service]
      rfl
    · exact (Array.size_push _).trans ((congrArg (· + 1) hw.launched).trans hsize.symm)
    · rw [w.turn_calls_self, hw.service]
      rfl

/-- A call whose job is launched is answered as in a session, and changes nothing. -/
theorem resume_launched (t : Session) (h : Handle) (hservice : h.service = t.earlier.size)
    (mode : Mode) :
    (t.service.resume ids (.launched mode h.number)).coordinator = t.service.coordinator ∧
      (t.service.resume ids (.launched mode h.number)).answer =
        (t.outcome? h mode ((t.job? h).map Job.progress)).map .resend := by
  have hfound : t.service? h.service = some t.service := by rw [service?, if_pos hservice]
  cases mode with
  | async =>
    rw [outcome?, job?, hfound, Option.bind_eq_bind, Option.bind_some, Service.resume]
    cases t.service.coordinator.jobs[h.number]? <;> exact ⟨rfl, rfl⟩
  | sync =>
    rw [outcome?, hfound, Option.bind_eq_bind, Option.bind_some, Service.resume]
    obtain _ | _ | _ := t.service.coordinator.await h.number <;> exact ⟨rfl, rfl⟩

theorem goes_outcome {w : World} {t : Session} (hw : w.Serves t) (h : Handle)
    (hservice : h.service = t.earlier.size) (mode : Mode) (key : Nat)
    (hkey : w.calls key = some (.launched mode h.number)) :
    ∃ w', w.Goes ((t.outcome? h mode ((t.job? h).map Job.progress)).toList.map .resend) w' ∧
      w'.Serves t := by
  obtain ⟨hcoordinator, hanswer⟩ := t.resume_launched h hservice mode
  have hgoes := w.goes_advance key _ hkey
  rw [hw.service, hanswer, Option.toList_map] at hgoes
  refine ⟨_, hgoes, ?_, hw.alone, hw.launched, fresh_turn hw key _⟩
  rw [World.turn, World.withCoordinator, hcoordinator, ← hw.service]

theorem does_execute (s : Session) (a : Ask) (job : ResendJob)
    (h : s.service.Leads (s.service.start a) (s.service.launched job
      (s.service.coordinator.launch (ids s.service.coordinator.jobs.size) job))) :
    s.Does ((s.execute job).1.toList.map .resend) (s.execute job).2 := by
  intro w hw
  rw [execute]
  rcases goes_launch hw a job h with
    ⟨e, he, hdoes⟩ | ⟨t, handle, key, w₁, hl, hgoes₁, hw₁, hhandle, hkey⟩
  · rw [he]
    exact hdoes w hw
  have hhold : (t.settle handle).Works (t.settle handle).hold := works_of_eq _ _ rfl rfl rfl
  rw [hl]
  cases hmode : job.mode with
  | async =>
    rw [hmode] at hkey
    obtain ⟨w₂, hgoes₂, hw₂⟩ := goes_outcome hw₁ handle hhandle .async key hkey
    obtain ⟨w₃, hgoes₃, hw₃, -⟩ := (t.works_settle handle).trans hhold w₂ hw₂
    have hall := hgoes₁.trans (hgoes₂.trans hgoes₃)
    rw [List.append_nil] at hall
    exact ⟨w₃, hall, hw₃⟩
  | sync =>
    rw [hmode] at hkey
    obtain ⟨w₂, hgoes₂, hw₂, hcalls⟩ := t.works_settle handle w₁ hw₁
    rw [hw₁.alone, ← hw₂.alone] at hhandle
    rw [← hcalls] at hkey
    obtain ⟨w₃, hgoes₃, hw₃⟩ := goes_outcome hw₂ handle hhandle .sync key hkey
    obtain ⟨w₄, hgoes₄, hw₄, -⟩ := hhold w₃ hw₃
    have hall := hgoes₁.trans (hgoes₂.trans (hgoes₃.trans hgoes₄))
    rw [List.append_nil] at hall
    exact ⟨w₄, hall, hw₄⟩

theorem does_resend (s : Session) (p : ResendParams) :
    s.Does ((s.resend p).1.toList.map .resend) (s.resend p).2 := by
  have hleads := s.service.leads_resend p
  rw [resend]
  cases hp : s.service.resendJob p with
  | error e =>
    rw [hp] at hleads
    exact s.does_tell _ _ hleads
  | ok job =>
    rw [hp] at hleads
    exact s.does_execute _ job hleads

def told : Except PacketError Unit → List Answer
  | .ok () => []
  | .error e => [.resend (.error e)]

theorem does_launchEach (s : Session) (job : ResendJob) (n : Nat) :
    s.Does (told (launchEach job n s).1) (launchEach job n s).2 := by
  induction n generalizing s with
  | zero => exact (Works.refl s).does
  | succ n ih =>
    intro w hw
    rw [launchEach]
    rcases goes_launch hw (.execute job) job (s.service.leads_accept job) with
      ⟨e, he, hdoes⟩ | ⟨t, handle, key, w₁, hl, hgoes₁, hw₁, -, -⟩
    · rw [he]
      exact hdoes w hw
    · rw [hl]
      obtain ⟨w₂, hgoes₂, hw₂⟩ := ((t.works_settle handle).does.trans (ih _)) w₁ hw₁
      exact ⟨w₂, hgoes₁.trans hgoes₂, hw₂⟩

theorem does_launchMany (s : Session) (job : ResendJob) (n : Nat) :
    s.Does (told (s.launchMany job n).1) (s.launchMany job n).2 := by
  have hhold : (launchEach job n s).2.Works (launchEach job n s).2.hold :=
    works_of_eq _ _ rfl rfl rfl
  have h := (s.does_launchEach job n).trans hhold.does
  rw [List.append_nil] at h
  exact h

end Session

inductive SessionOp where
  | history (p : HistoryParams)
  | config (p : ConfigParams)
  | detail (p : DetailParams)
  | append (d : Draft)
  | resend (p : ResendParams)
  | execute (job : ResendJob)
  | launchMany (job : ResendJob) (n : Nat)
  | release (n : Nat)

namespace Session

/-- Does one thing with a session, with what callers are told. -/
def perform (s : Session) : SessionOp → List Answer × Session
  | .history p => ([.history (s.service.history p)], s)
  | .config p => ([.config (s.service.config p)], s)
  | .detail p => ([.detail (s.service.detail p)], s)
  | .append d =>
    match s.append d with
    | .error e => ([.append (.error e)], s)
    | .ok (id, t) => ([.append (.ok id)], t)
  | .resend p => ((s.resend p).1.toList.map .resend, (s.resend p).2)
  | .execute job => ((s.execute job).1.toList.map .resend, (s.execute job).2)
  | .launchMany job n => (told (s.launchMany job n).1, (s.launchMany job n).2)
  | .release n => ([], release n s)

theorem does_perform (s : Session) (op : SessionOp) :
    s.Does (s.perform op).1 (s.perform op).2 := by
  cases op with
  | history p => exact s.does_tell _ _ (s.service.leads_history p)
  | config p => exact s.does_tell _ _ (s.service.leads_config p)
  | detail p => exact s.does_tell _ _ (s.service.leads_detail p)
  | append d =>
    have h := s.does_append d
    rw [perform]
    cases hd : s.append d with
    | error e =>
      rw [hd] at h
      exact h
    | ok p =>
      rw [hd] at h
      exact h
  | resend p => exact s.does_resend p
  | execute job => exact s.does_execute (.execute job) job (s.service.leads_accept job)
  | launchMany job n => exact s.does_launchMany job n
  | release n => exact (s.works_release n).does

def performAll (s : Session) : List SessionOp → List Answer × Session
  | [] => ([], s)
  | op :: ops =>
    ((s.perform op).1 ++ ((s.perform op).2.performAll ops).1, ((s.perform op).2.performAll ops).2)

theorem does_performAll (s : Session) (ops : List SessionOp) :
    s.Does (s.performAll ops).1 (s.performAll ops).2 := by
  induction ops generalizing s with
  | nil => exact (Works.refl s).does
  | cons op ops ih => exact (s.does_perform op).trans (ih _)

/-- **What a session does is a run of a world.** Whatever is done with a session that begins with a
service without jobs, gated or not and with any transport: there is a run of a world over that
service in which callers are told the same and which comes to the same store, the same jobs and the
same known jobs. -/
theorem performAll_is_run (service : Service) (hjobs : service.coordinator.jobs = #[])
    (onDisk gated : Bool) (transport : Transport) (now : Instant) (ops : List SessionOp) :
    let done := (start service onDisk gated transport now).performAll ops
    ∃ es, (World.run ids (World.start service) es).2.service = done.2.service ∧
      (World.run ids (World.start service) es).1.filterMap Prod.snd = done.1 := by
  intro done
  have hserves : (World.start service).Serves (start service onDisk gated transport now) := by
    refine ⟨rfl, rfl, ?_, 0, fun _ _ => rfl⟩
    rw [start, hjobs]
    rfl
  obtain ⟨w, ⟨es, rfl, htold⟩, hw⟩ := does_performAll _ ops _ hserves
  exact ⟨es, hw.service, htold⟩

end Session

end PacketReplay
