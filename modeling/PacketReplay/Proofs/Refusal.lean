import PacketReplay.Proofs.Erasure

set_option autoImplicit false

namespace PacketReplay

def Ask.Reads : Ask → Prop
  | .history _ => True
  | .config _ => True
  | .detail _ => True
  | _ => False

/-- Whether an answer turns a resend away: an error other than that the job was aborted. -/
def Answer.Refuses : Answer → Prop
  | .resend (.error e) => ∀ job, e ≠ .jobAborted job
  | _ => False

def Call.Reads : Call → Prop
  | .listing _ _ _ => True
  | .reading _ _ _ => True
  | .answered => True
  | _ => False

/-- Whether a call has had all the effect it will have, but for keeping a record in memory. -/
def Call.Settled : Call → Prop
  | .launched _ _ => True
  | .keeping _ => True
  | .answered => True
  | _ => False

def World.Lacks (ids : Nat → JobId) (w : World) (es : List Event) (id : PacketId) : Prop :=
  ∀ before, before <+: es → ∀ inMemory r,
    (World.run ids w before).2.store.look inMemory id true ≠ some (.ok r)

/-- A resend with something wrong: the token is not accepted, a number is out of range, some rule is
no edit, or the packet is found nowhere while the run goes on. -/
inductive World.Rejects (ids : Nat → JobId) (w : World) (es : List Event) (p : ResendParams) :
    Prop where
  | token (e : PacketError) (h : w.service.trust.authorize p.accessToken = .error e)
  | id (h : p.packetId < 0)
  | count (h : p.count.getD 1 < 1 ∨ (w.service.maxCount.toNat : Int) < p.count.getD 1)
  | interval (h : p.intervalMs.getD 0 < 0 ∨
      (w.service.maxIntervalMs.toNat : Int) < p.intervalMs.getD 0)
  | rule (r : Rule) (hr : r ∈ p.rules) (fault : RuleFault) (h : r.compile = .error fault)
  | packet (id : PacketId) (hid : Service.packetId p.packetId = .ok id) (h : w.Lacks ids es id)

/-- A call that may be taken out of a run: it only reads, it is refused in the run, or it is a resend
with something wrong. -/
inductive World.Erasable (ids : Nat → JobId) (w : World) (es : List Event) (key : Nat) : Prop where
  | reads (h : ∀ a, .ask key a ∈ es → a.Reads)
  | refused (e : Event) (a : Answer) (hk : e.key? = some key)
      (he : (e, some a) ∈ (World.run ids w es).1) (h : a.Refuses)
  | rejected (h : ∀ a, .ask key a ∈ es → ∃ p, a = .resend p ∧ w.Rejects ids es p)

theorem Store.look_error (s : Store) (inMemory : Bool) (id : PacketId) (includeBody : Bool)
    (e : PacketError) (h : s.look inMemory id includeBody = some (.error e)) (job : JobId) :
    e ≠ .jobAborted job := by
  rintro rfl
  unfold look at h
  split at h
  · cases hm : s.inMemory? id with
    | none => simp [hm] at h
    | some r => simp [hm] at h
  · unfold getStored at h
    repeat' split at h
    all_goals cases h

theorem compileFrom_fault (rules : List Rule) (r : Rule) (hr : r ∈ rules) (fault : RuleFault)
    (h : r.compile = .error fault) (start : Nat) :
    ∃ index first, compileFrom start rules = .error (.invalidRule index first) := by
  induction rules generalizing start with
  | nil => cases hr
  | cons r' rules ih =>
    rw [compileFrom]
    cases hc : r'.compile with
    | error first => exact ⟨start, first, rfl⟩
    | ok e =>
      rcases List.mem_cons.mp hr with rfl | hrest
      · rw [hc] at h
        cases h
      · obtain ⟨index, first, hf⟩ := ih hrest (start + 1)
        exact ⟨index, first, by simp only [hf]⟩

theorem compileFrom_error (rules : List Rule) (start : Nat) (e : PacketError)
    (h : compileFrom start rules = .error e) : ∃ index fault, e = .invalidRule index fault := by
  induction rules generalizing start with
  | nil => cases h
  | cons r rules ih =>
    rw [compileFrom] at h
    split at h
    · rename_i fault _
      cases h
      exact ⟨start, fault, rfl⟩
    · split at h
      · rename_i hf
        cases h
        exact ih (start + 1) hf
      · cases h

theorem applyRules_error (p : Record) (rules : List Rule) (policy : Policy) (e : PacketError)
    (h : applyRules p rules policy = .error e) (job : JobId) : e ≠ .jobAborted job := by
  rintro rfl
  unfold applyRules at h
  split at h
  · rename_i hc
    cases h
    obtain ⟨index, fault, hx⟩ := compileFrom_error rules 0 _ hc
    cases hx
  · cases h

theorem TrustStore.authorize_error (t : TrustStore) (presented : Option String) (e : PacketError)
    (h : t.authorize presented = .error e) : ∃ fault, e = .unauthorized fault := by
  unfold authorize at h
  repeat' split at h
  all_goals first
    | exact ⟨_, (Except.error.inj h).symm⟩
    | cases h

theorem Coordinator.await_error (c : Coordinator) (n : Nat) (e : PacketError)
    (h : c.await n = some (.error e)) : ∃ job, e = .jobAborted job := by
  unfold await at h
  split at h
  · cases h
  · split at h
    · cases h
    · exact ⟨_, (Except.error.inj (Option.some.inj h)).symm⟩
    · cases h

namespace Service

theorem packetId_error (raw : Int) (e : PacketError) (h : packetId raw = .error e) :
    ∃ fault, e = .invalidArgument fault := by
  unfold packetId at h
  split at h
  · exact ⟨_, (Except.error.inj h).symm⟩
  · cases h

theorem resendJob_cases (s : Service) (p : ResendParams) :
    (∃ e, s.resendJob p = .error e ∧ ∀ job, e ≠ .jobAborted job) ∨
    ∃ id, s.trust.authorize p.accessToken = .ok () ∧ packetId p.packetId = .ok id ∧
      ¬ (p.count.getD 1 < 1 ∨ (s.maxCount.toNat : Int) < p.count.getD 1) ∧
      ¬ (p.intervalMs.getD 0 < 0 ∨ (s.maxIntervalMs.toNat : Int) < p.intervalMs.getD 0) ∧
      s.resendJob p = .ok {
        source := id
        count := (p.count.getD 1).toNat.toUInt32
        intervalMs := (p.intervalMs.getD 0).toNat.toUInt64
        rules := p.rules
        policy := .ofAllow p.allowDuplicates
        mode := .ofAsync p.async } := by
  unfold resendJob
  cases ha : s.trust.authorize p.accessToken with
  | error e =>
    obtain ⟨fault, rfl⟩ := s.trust.authorize_error p.accessToken e ha
    exact .inl ⟨_, rfl, by simp⟩
  | ok u =>
    cases hi : packetId p.packetId with
    | error e =>
      obtain ⟨fault, rfl⟩ := packetId_error p.packetId e hi
      exact .inl ⟨_, rfl, by simp⟩
    | ok id =>
      by_cases hcount : p.count.getD 1 < 1 ∨ (s.maxCount.toNat : Int) < p.count.getD 1
      · refine .inl ⟨.invalidArgument (.count s.maxCount.toNat (p.count.getD 1)), ?_, by simp⟩
        simp only [bind, Except.bind, if_pos hcount]
        rfl
      · by_cases hpause :
          p.intervalMs.getD 0 < 0 ∨ (s.maxIntervalMs.toNat : Int) < p.intervalMs.getD 0
        · refine .inl ⟨.invalidArgument
            (.interval s.maxIntervalMs.toNat (p.intervalMs.getD 0)), ?_, by simp⟩
          simp only [bind, Except.bind, if_neg hcount, if_pos hpause]
          rfl
        · refine .inr ⟨id, rfl, rfl, hcount, hpause, ?_⟩
          simp only [bind, Except.bind, if_neg hcount, if_neg hpause]
          rfl

theorem start_reads (s : Service) (a : Ask) (h : a.Reads) :
    (s.start a).coordinator = s.coordinator ∧ (s.start a).call.Reads := by
  cases a with
  | history p =>
    simp only [start]
    split
    · exact ⟨rfl, trivial⟩
    · exact ⟨rfl, trivial⟩
  | config p => exact ⟨rfl, trivial⟩
  | detail p =>
    simp only [start]
    split
    · exact ⟨rfl, trivial⟩
    · exact ⟨rfl, trivial⟩
  | resend | execute | append => cases h

variable (ids : Nat → JobId) (s : Service)

theorem resume_reads (call : Call) (h : call.Reads) :
    (s.resume ids call).coordinator = s.coordinator ∧ (s.resume ids call).call.Reads := by
  cases call with
  | listing page f o => exact ⟨rfl, trivial⟩
  | reading id includeBody inMemory =>
    simp only [resume]
    split
    · exact ⟨rfl, trivial⟩
    · exact ⟨rfl, trivial⟩
  | answered => exact ⟨rfl, trivial⟩
  | finding | launched | keeping => cases h

theorem resume_settled (call : Call) (h : call.Settled) :
    (∀ a, (s.resume ids call).answer = some a → ¬ a.Refuses) ∧
      (s.resume ids call).call.Settled := by
  cases call with
  | launched mode n =>
    cases mode with
    | async =>
      simp only [resume]
      split
      · exact ⟨by simp [goOn], trivial⟩
      · exact ⟨by simp [tell, Answer.Refuses], trivial⟩
    | sync =>
      simp only [resume]
      split
      · exact ⟨by simp [goOn], trivial⟩
      · exact ⟨by simp [tell, Answer.Refuses], trivial⟩
      · rename_i e he
        obtain ⟨job, rfl⟩ := s.coordinator.await_error n e he
        exact ⟨by simp [tell, Answer.Refuses], trivial⟩
  | keeping r => exact ⟨by simp [resume, Answer.Refuses], trivial⟩
  | answered => exact ⟨by simp [resume, goOn], trivial⟩
  | listing | reading | finding => cases h

/-- A part of a call leaves no trace, or the call has had its effect. -/
theorem Turns.quiet_or_settled {before : Ask ⊕ Call} {t : Turn} (h : s.Turns ids before t) :
    t.coordinator = s.coordinator ∨ t.call.Settled ∧ ∀ a, t.answer = some a → ¬ a.Refuses := by
  cases h with
  | quiet => exact .inl rfl
  | launch => exact .inr ⟨trivial, by simp⟩
  | insert => exact .inr ⟨trivial, by simp⟩
  | mirror => exact .inr ⟨trivial, by simp [Answer.Refuses]⟩

theorem Turns.refused {before : Ask ⊕ Call} {t : Turn} (h : s.Turns ids before t) (a : Answer)
    (ha : t.answer = some a) (hr : a.Refuses) :
    t.coordinator = s.coordinator ∧ t.call = .answered := by
  cases h with
  | quiet call answer hk hf hl hc => exact ⟨rfl, hc (Option.isSome_of_eq_some ha)⟩
  | launch | insert => cases ha
  | mirror r =>
    cases ha
    cases hr

end Service

namespace World

variable (ids : Nat → JobId) (w : World) (es : List Event) (key : Nat)

theorem quiet_reads (h : w.Standing key Ask.Reads Call.Reads es) : w.Quiet ids key es := by
  refine Turned.quiet ids (D := fun w t => t.coordinator = w.coordinator) (fun _ _ h => h) es w ?_
  refine turned_of ids (C := fun _ => True) ?_ ?_ es w (fun _ _ => trivial) h
  · exact fun w a _ ha => w.service.start_reads a ha
  · exact fun w call _ hcall => w.service.resume_reads ids call hcall

theorem not_refused (call : Call) (hc : w.calls key = some call) (hs : call.Settled) (e : Event)
    (a : Answer) (hk : e.key? = some key) (he : (e, some a) ∈ (World.run ids w es).1) :
    ¬ a.Refuses := by
  have hturned : w.Turned ids key (fun _ t => ∀ a, t.answer = some a → ¬ a.Refuses) es := by
    refine turned_of ids (A := fun _ => False) (R := Call.Settled) (C := fun _ => True) ?_ ?_ es w
      (fun _ _ => trivial) (.some w call hc hs)
    · exact fun _ _ _ ha => ha.elim
    · exact fun w call _ hcall => w.service.resume_settled ids call hcall
  obtain ⟨_, t, ht, ha⟩ := hturned.answer ids e a hk es w he
  exact ht a ha

theorem part_turns (e : Event) (t : Turn) (h : w.part? ids e = some (key, t)) :
    ∃ before, w.service.Turns ids before t := by
  cases e with
  | ask k a =>
    simp only [part?] at h
    split at h
    · cases h
      exact ⟨_, w.service.turns_start ids a⟩
    · cases h
  | advance k =>
    simp only [part?] at h
    split at h
    · cases h
    · rename_i call _
      cases h
      exact ⟨_, w.service.turns_resume ids call⟩
  | dispatch | receive | mirror | publish | proceed | wake => cases h

/-- A call that is refused in a run leaves no trace in it: before the refusal it has had no effect,
or it would not be refused, and after it there is nothing more to do. -/
theorem quiet_refused (e : Event) (a : Answer) (hk : e.key? = some key) (hr : a.Refuses)
    (he : (e, some a) ∈ (World.run ids w es).1) : w.Quiet ids key es := by
  induction es generalizing w with
  | nil => trivial
  | cons e' es ih =>
    change _ ∈ (e', (w.step ids e').1) :: (World.run ids (w.step ids e').2 es).1 at he
    rcases List.mem_cons.mp he with hhead | htail
    · obtain ⟨rfl, ha⟩ := Prod.mk.inj hhead
      rcases w.step_part ids e key hk with ⟨-, hs⟩ | ⟨t, ht, hs⟩
      · rw [hs] at ha
        cases ha
      · obtain ⟨before, hb⟩ := w.part_turns ids key e t ht
        rw [hs] at ha
        obtain ⟨hq, hanswered⟩ := hb.refused ids w.service a ha.symm hr
        refine ⟨fun _ => ?_, quiet_reads ids _ es key (.some _ .answered ?_ trivial)⟩
        · rw [hs]
          exact w.turn_quiet key t hq
        · rw [hs, ← hanswered]
          exact w.turn_calls_self key t
    · refine ⟨fun hk' => ?_, ih _ htail⟩
      rcases w.step_part ids e' key hk' with ⟨-, hs⟩ | ⟨t, ht, hs⟩
      · rw [hs]
      · obtain ⟨before, hb⟩ := w.part_turns ids key e' t ht
        rcases hb.quiet_or_settled ids w.service with hq | ⟨hsettled, -⟩
        · rw [hs]
          exact w.turn_quiet key t hq
        · rw [hs] at htail
          exact absurd hr (not_refused ids _ es key t.call (w.turn_calls_self key t) hsettled e a hk htail)

theorem step_service (e : Event) :
    (w.step ids e).2.service = { w.service with coordinator := (w.step ids e).2.coordinator } := by
  cases hk : e.key? with
  | none =>
    obtain ⟨-, n, hstep⟩ := w.step_jobStep ids e hk
    generalize (w.step ids e).2 = w' at hstep ⊢
    cases hstep <;> rfl
  | some k =>
    rcases w.step_part ids e k hk with ⟨-, hs⟩ | ⟨t, -, hs⟩ <;>
    · rw [hs]
      rfl

theorem run_service : (World.run ids w es).2.service =
    { w.service with coordinator := (World.run ids w es).2.coordinator } := by
  induction es generalizing w with
  | nil => rfl
  | cons e es ih =>
    have htail := ih (w.step ids e).2
    rw [w.step_service ids e] at htail
    exact htail

def Passes (w' : World) : Prop :=
  ∃ before, before <+: es ∧ w' = (World.run ids w before).2

/-- A job that cannot be launched while a run goes on. -/
def Futile (job : ResendJob) : Prop :=
  ∀ w', w.Passes ids es w' → ∀ inMemory source,
    w'.store.look inMemory job.source true = some (.ok source) →
      ∃ e, applyRules source job.rules job.policy = .error e

def Doomed : Call → Prop
  | .finding job _ => w.Futile ids es job
  | .answered => True
  | _ => False

def Vain (w : World) (t : Turn) : Prop :=
  t.coordinator = w.coordinator ∧ ∀ a, t.answer = some a → a.Refuses

theorem Rejects.futile {w : World} {es : List Event} {p : ResendParams} (h : w.Rejects ids es p)
    (job : ResendJob) (hj : w.service.resendJob p = .ok job) : w.Futile ids es job := by
  rcases w.service.resendJob_cases p with ⟨e, he, -⟩ | ⟨id, htoken, hid, hcount, hpause, hok⟩
  · rw [he] at hj
    cases hj
  · rw [hok] at hj
    cases hj
    cases h with
    | token e ht =>
      rw [htoken] at ht
      cases ht
    | id hneg =>
      rw [Service.packetId, if_pos hneg] at hid
      cases hid
    | count hc => exact absurd hc hcount
    | interval hi => exact absurd hi hpause
    | rule r hr fault hf =>
      intro _ _ _ source _
      obtain ⟨index, first, hx⟩ := compileFrom_fault p.rules r hr fault hf 0
      exact ⟨.invalidRule index first, by simp only [applyRules, hx]⟩
    | packet id' hid' hl =>
      rw [hid] at hid'
      cases hid'
      rintro _ ⟨before, hb, rfl⟩ inMemory source hs
      exact absurd hs (hl before hb inMemory source)

theorem start_vain (w' : World) (hw : w.Passes ids es w') (p : ResendParams)
    (h : w.Rejects ids es p) : Vain w' (w'.service.start (.resend p)) ∧
      w.Doomed ids es (w'.service.start (.resend p)).call := by
  obtain ⟨before, -, rfl⟩ := hw
  generalize hs : (World.run ids w before).2 = w'
  have hjob : w'.service.resendJob p = w.service.resendJob p := by
    rw [← hs, run_service]
    rfl
  simp only [Service.start, hjob]
  rcases w.service.resendJob_cases p with ⟨e, he, hne⟩ | ⟨id, -, -, -, -, hok⟩
  · rw [he]
    refine ⟨⟨rfl, ?_⟩, trivial⟩
    rintro _ ⟨⟩
    exact hne
  · rw [hok]
    simp only [Service.accept]
    split
    · refine ⟨⟨rfl, ?_⟩, trivial⟩
      rintro _ ⟨⟩
      simp [Answer.Refuses]
    · exact ⟨⟨rfl, by simp [Service.goOn]⟩, h.futile ids _ hok⟩

theorem resume_vain (w' : World) (hw : w.Passes ids es w') (call : Call)
    (h : w.Doomed ids es call) :
    Vain w' (w'.service.resume ids call) ∧ w.Doomed ids es (w'.service.resume ids call).call := by
  cases call with
  | finding job inMemory =>
    cases hl : w'.service.store.look inMemory job.source true with
    | none =>
      simp only [Service.resume, hl]
      exact ⟨⟨rfl, by simp [Service.goOn]⟩, h⟩
    | some r =>
      cases r with
      | error e =>
        simp only [Service.resume, hl]
        refine ⟨⟨rfl, ?_⟩, trivial⟩
        rintro _ ⟨⟩
        exact w'.service.store.look_error inMemory job.source true e hl
      | ok source =>
        obtain ⟨e, he⟩ := h w' hw inMemory source hl
        simp only [Service.resume, hl, Coordinator.startOn, he]
        refine ⟨⟨rfl, ?_⟩, trivial⟩
        rintro _ ⟨⟩
        exact applyRules_error source job.rules job.policy e he
  | answered => exact ⟨⟨rfl, by simp [Service.resume, Service.goOn]⟩, trivial⟩
  | listing | reading | launched | keeping => cases h

theorem turned_vain (hc : w.calls key = none)
    (h : ∀ a, .ask key a ∈ es → ∃ p, a = .resend p ∧ w.Rejects ids es p) :
    w.Turned ids key Vain es := by
  refine turned_of ids (A := fun a => ∃ p, a = .resend p ∧ w.Rejects ids es p)
    (R := w.Doomed ids es) (C := w.Passes ids es) ?_ ?_ es w ?_ (.none w hc h)
  · rintro w' _ hw ⟨p, rfl, hp⟩
    exact start_vain ids w es w' hw p hp
  · exact fun w' call hw hcall => resume_vain ids w es w' hw call hcall
  · exact fun before hb => ⟨before, hb, rfl⟩

theorem Erasable.quiet {w : World} {es : List Event} {key : Nat} (h : w.Erasable ids es key)
    (hc : w.calls key = none) : w.Quiet ids key es := by
  cases h with
  | reads hr => exact quiet_reads ids w es key (.none w hc hr)
  | refused e a hk he hr => exact quiet_refused ids w es key e a hk hr he
  | rejected hr => exact (turned_vain ids w es key hc hr).quiet ids (fun _ _ h => h.1) es w

theorem without_self (K : Nat → Bool) (h : ∀ k, K k = true → w.calls k = none) :
    w.without K = w := by
  have hcalls : (w.without K).calls = w.calls := by
    funext k
    change (if K k then none else w.calls k) = w.calls k
    split
    · rename_i hk
      exact (h k hk).symm
    · rfl
  exact congrArg (World.mk w.service · w.entries) hcalls

/-- **Reads and refused resends leave no trace.** In any run from any world, take out any calls made
in it that only read, that are refused, or that are resends with something wrong. What is told at
every other event stays the same, and so do the service at the end, with its table, what is kept in
memory, its jobs and the known ones, the history of what was handed over, and where every other call
stands. A resend with something wrong changes nothing at any of its parts, and is told nothing but
of a refusal. -/
theorem run_erase (K : Nat → Bool) (hnew : ∀ k, K k = true → w.calls k = none)
    (hK : ∀ k, K k = true → w.Erasable ids es k) :
    let all := World.run ids w es
    let rest := World.run ids w (es.filter fun e => !e.isOf K)
    rest.1 = all.1.filter (fun p => !p.1.isOf K) ∧ rest.2.service = all.2.service ∧
      rest.2.entries = all.2.entries ∧ (∀ k, K k = false → rest.2.calls k = all.2.calls k) ∧
      ∀ k, w.calls k = none →
        (∀ a, .ask k a ∈ es → ∃ p, a = .resend p ∧ w.Rejects ids es p) →
        w.Quiet ids k es ∧ ∀ e a, e.key? = some k → (e, some a) ∈ all.1 → a.Refuses := by
  intro all rest
  have hquiet : ∀ k, K k = true → w.Quiet ids k es := fun k hk => (hK k hk).quiet ids (hnew k hk)
  have hrun := run_without ids K es w hquiet
  rw [w.without_self K hnew] at hrun
  refine ⟨congrArg Prod.fst hrun, congrArg (fun q => q.2.service) hrun,
    congrArg (fun q => q.2.entries) hrun, ?_, ?_⟩
  · intro k hk
    have hcalls := congrArg (fun q => q.2.calls k) hrun
    change rest.2.calls k = if K k then none else all.2.calls k at hcalls
    rw [hk] at hcalls
    exact hcalls
  · intro k hc h
    have hvain := turned_vain ids w es k hc h
    refine ⟨hvain.quiet ids (fun _ _ h => h.1) es w, ?_⟩
    intro e a hk he
    obtain ⟨_, t, ht, ha⟩ := hvain.answer ids e a hk es w he
    exact ht.2 a ha

def guarded : World :=
  .start ⟨.ofStore (Store.run (fun _ => 1) [.append (.bare "/") none]).2, .fixed (some "key"), ⟨[]⟩,
    1000, 60000⟩

end World

/-- A resend that sends, and between its parts a look at a packet, a resend without a token, one of
no attempts and one of a packet that is not there. -/
def Event.crowded : List Event :=
  [.ask 0 (.resend (.once 1 "key")), .ask 1 (.detail ⟨1, true⟩), .ask 3 (.resend (.once 2 "key")),
    .advance 0, .advance 3, .ask 2 (.resend { ResendParams.once 1 "key" with accessToken := none }),
    .advance 0, .dispatch 0, .advance 1, .advance 3,
    .ask 4 (.resend { ResendParams.once 1 "key" with count := some 0 }),
    .receive 0 (.delivery (.failed "lost")) .epoch none]

def Event.alone : List Event :=
  [.ask 0 (.resend (.once 1 "key")), .advance 0, .advance 0, .dispatch 0,
    .receive 0 (.delivery (.failed "lost")) .epoch none]

theorem World.run_erase_crowded :
    (World.run (fun _ => "") World.guarded Event.alone).2.service =
      (World.run (fun _ => "") World.guarded Event.crowded).2.service ∧
    (World.run (fun _ => "") World.guarded Event.alone).2.entries =
      (World.run (fun _ => "") World.guarded Event.crowded).2.entries := by
  have hK : ∀ k, decide (k ≠ 0) = true →
      World.Erasable (fun _ => "") World.guarded Event.crowded k := by
    intro k hk
    match k with
    | 0 => cases hk
    | 1 =>
      refine .reads fun a ha => ?_
      obtain rfl : a = .detail ⟨1, true⟩ := by simpa [Event.crowded] using ha
      trivial
    | 2 =>
      refine .rejected fun a ha => ⟨{ ResendParams.once 1 "key" with accessToken := none }, ?_,
        .token (.unauthorized .tokenRequired) rfl⟩
      simpa [Event.crowded] using ha
    | 3 =>
      exact .refused (.advance 3) (.resend (.error (.notFound 2))) rfl
        (List.mem_of_getElem? (i := 9) rfl) (by simp [Answer.Refuses])
    | 4 =>
      refine .rejected fun a ha => ⟨{ ResendParams.once 1 "key" with count := some 0 }, ?_,
        .count (.inl (by decide))⟩
      simpa [Event.crowded] using ha
    | n + 5 =>
      refine .reads fun a ha => ?_
      simp [Event.crowded] at ha
  have h := World.run_erase (fun _ => "") World.guarded Event.crowded (fun k => decide (k ≠ 0))
    (fun _ _ => rfl) hK
  exact ⟨h.2.1, h.2.2.1⟩

end PacketReplay
