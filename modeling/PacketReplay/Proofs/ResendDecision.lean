import PacketReplay.Proofs.Admission
import PacketReplay.Proofs.RuleList
import PacketReplay.Proofs.StoredPackets

set_option autoImplicit false

namespace PacketReplay

/-- A token that is expected has been presented, with or without blanks around. -/
def TrustStore.Accepts (store : TrustStore) (presented : Option String) : Prop :=
  ∃ t p, store.expected = .token t ∧ presented = some p ∧ trim p ≠ "" ∧ trim p = t

structure Service.Allows (s : Service) (p : ResendParams) : Prop where
  id : 0 ≤ p.packetId
  count : 1 ≤ p.count.getD 1 ∧ p.count.getD 1 ≤ s.maxCount.toNat
  intervalMs : 0 ≤ p.intervalMs.getD 0 ∧ p.intervalMs.getD 0 ≤ s.maxIntervalMs.toNat

/-- A job is the one that is asked for: its numbers are the given ones. -/
structure ResendParams.Asks (p : ResendParams) (job : ResendJob) : Prop where
  source : (job.source.toNat : Int) = p.packetId
  count : (job.count.toNat : Int) = p.count.getD 1
  intervalMs : (job.intervalMs.toNat : Int) = p.intervalMs.getD 0
  rules : job.rules = p.rules
  policy : job.policy = .ofAllow p.allowDuplicates
  mode : job.mode = .ofAsync p.async

theorem TrustStore.accepts_iff (store : TrustStore) (presented : Option String) :
    store.Accepts presented ↔ store.authorize presented = .ok () := by
  simp only [authorize_ok_iff, textBytes_inj, Accepts]

namespace Service

variable (s : Service) (p : ResendParams)

theorem resendJob_denied (h : ¬ s.trust.Accepts p.accessToken) :
    ∃ fault, s.resendJob p = .error (.unauthorized fault) := by
  rw [TrustStore.accepts_iff] at h
  obtain ⟨fault, hf⟩ := (s.trust.authorize_closed p.accessToken).resolve_left h
  exact ⟨fault, by simp only [resendJob, hf, bind, Except.bind]⟩

theorem resendJob_checked (ht : s.trust.Accepts p.accessToken) :
    (¬ s.Allows p ∧ ∃ fault, s.resendJob p = .error (.invalidArgument fault)) ∨
    s.Allows p ∧ s.resendJob p = .ok {
      source := p.packetId.toNat.toUInt64
      count := (p.count.getD 1).toNat.toUInt32
      intervalMs := (p.intervalMs.getD 0).toNat.toUInt64
      rules := p.rules
      policy := .ofAllow p.allowDuplicates
      mode := .ofAsync p.async } := by
  rw [TrustStore.accepts_iff] at ht
  by_cases hid : p.packetId < 0
  · refine .inl ⟨fun h => absurd h.id (by omega), .negativeId p.packetId, ?_⟩
    simp only [resendJob, ht, packetId, if_pos hid, bind, Except.bind]
  · by_cases hcount : p.count.getD 1 < 1 ∨ (s.maxCount.toNat : Int) < p.count.getD 1
    · refine .inl ⟨fun h => absurd h.count (by omega), .count s.maxCount.toNat (p.count.getD 1), ?_⟩
      simp only [resendJob, ht, packetId, if_neg hid, if_pos hcount, bind, Except.bind]
      rfl
    · by_cases hpause :
        p.intervalMs.getD 0 < 0 ∨ (s.maxIntervalMs.toNat : Int) < p.intervalMs.getD 0
      · refine .inl ⟨fun h => absurd h.intervalMs (by omega),
          .interval s.maxIntervalMs.toNat (p.intervalMs.getD 0), ?_⟩
        simp only [resendJob, ht, packetId, if_neg hid, if_neg hcount, if_pos hpause, bind,
          Except.bind]
        rfl
      · refine .inr ⟨⟨by omega, by omega, by omega⟩, ?_⟩
        simp only [resendJob, ht, packetId, if_neg hid, if_neg hcount, if_neg hpause, bind,
          Except.bind]
        rfl

/-- No number that is let through changes its value on the way into the job. -/
theorem Allows.asks {s : Service} {p : ResendParams} (h : s.Allows p) (hid : p.packetId < 2 ^ 63) :
    p.Asks {
      source := p.packetId.toNat.toUInt64
      count := (p.count.getD 1).toNat.toUInt32
      intervalMs := (p.intervalMs.getD 0).toNat.toUInt64
      rules := p.rules
      policy := .ofAllow p.allowDuplicates
      mode := .ofAsync p.async } where
  source := by
    have hpos := h.id
    change ((p.packetId.toNat % 2 ^ 64 : Nat) : Int) = p.packetId
    omega
  count := by
    have hin := h.count
    have hmax := s.maxCount.toNat_lt
    change (((p.count.getD 1).toNat % 2 ^ 32 : Nat) : Int) = p.count.getD 1
    omega
  intervalMs := by
    have hin := h.intervalMs
    have hmax := s.maxIntervalMs.toNat_lt
    change (((p.intervalMs.getD 0).toNat % 2 ^ 64 : Nat) : Int) = p.intervalMs.getD 0
    omega
  rules := rfl
  policy := rfl
  mode := rfl

inductive Starts (s : Service) (p : ResendParams) : Turn → Prop where
  | denied (h : ¬ s.trust.Accepts p.accessToken) (fault : AccessFault) :
    Starts s p (s.tell (.resend (.error (.unauthorized fault))))
  | refused (ht : s.trust.Accepts p.accessToken) (h : ¬ s.Allows p) (fault : ArgumentFault) :
    Starts s p (s.tell (.resend (.error (.invalidArgument fault))))
  | allowed (ht : s.trust.Accepts p.accessToken) (h : s.Allows p) (job : ResendJob)
      (hjob : p.Asks job) :
    Starts s p (s.goOn (.finding job true))

theorem start_resend (hid : p.packetId < 2 ^ 63) : s.Starts p (s.start (.resend p)) := by
  by_cases ht : s.trust.Accepts p.accessToken
  · rcases s.resendJob_checked p ht with ⟨hn, fault, he⟩ | ⟨h, hok⟩
    · simp only [start, he]
      exact .refused ht hn fault
    · have hjob := h.asks hid
      have hcount := hjob.count
      simp only [start, hok, accept]
      rw [if_neg]
      · exact .allowed ht h _ hjob
      · intro hzero
        have hin := h.count
        rw [hzero] at hcount
        change 0 = _ at hcount
        omega
  · obtain ⟨fault, he⟩ := s.resendJob_denied p ht
    simp only [start, he]
    exact .denied ht fault

section

variable (ids : Nat → JobId) (job : ResendJob) (inMemory : Bool)

theorem resume_missed (hlook : s.store.look inMemory job.source true = none) :
    s.resume ids (.finding job inMemory) = s.goOn (.finding job false) := by
  simp only [resume, hlook]

theorem resume_lost (e : PacketError)
    (hlook : s.store.look inMemory job.source true = some (.error e)) :
    s.resume ids (.finding job inMemory) = s.tell (.resend (.error e)) := by
  simp only [resume, hlook]

variable (source : Record) (hlook : s.store.look inMemory job.source true = some (.ok source))

include hlook

theorem resume_refused (e : PacketError)
    (hrules : applyRules source job.rules job.policy = .error e) :
    s.resume ids (.finding job inMemory) = s.tell (.resend (.error e)) := by
  simp only [resume, hlook, Coordinator.startOn, hrules]

theorem resume_launched (edited : Record)
    (hrules : applyRules source job.rules job.policy = .ok edited) :
    let n := s.coordinator.jobs.size
    let c := (s.coordinator.enlist (ids n) job source.id (.ofRecord edited)).2
    s.resume ids (.finding job inMemory) = ⟨.launched job.mode n, none, c⟩ := by
  simp only [resume, hlook, Coordinator.startOn, hrules]
  rfl

end

end Service

theorem applyRules_invalid_iff (p : Record) (rs : List Rule) (policy : Policy) (index : Nat)
    (fault : RuleFault) : applyRules p rs policy = .error (.invalidRule index fault) ↔
      ∃ before r after, rs = before ++ r :: after ∧ before.length = index ∧
        (∀ s ∈ before, ∃ edit, s.compile = .ok edit) ∧ r.compile = .error fault := by
  rw [applyRules_error_iff, compileFrom_error_iff]
  constructor
  · rintro ⟨before, r, after, fault', hrs, hbefore, hr, heq⟩
    cases heq
    exact ⟨before, r, after, hrs, (Nat.zero_add _).symm, hbefore, hr⟩
  · rintro ⟨before, r, after, hrs, rfl, hbefore, hr⟩
    exact ⟨before, r, after, fault, hrs, hbefore, hr, by rw [Nat.zero_add]⟩

theorem applyRules_accepted (p : Record) (rs : List Rule) (policy : Policy)
    (h : ∀ r ∈ rs, ∃ edit, r.compile = .ok edit) : ∃ q, applyRules p rs policy = .ok q := by
  obtain ⟨edits, hedits⟩ := (compileFrom_exists_iff 0 rs).mpr h
  exact ⟨_, (applyRules_ok_iff p policy rs _).mpr ⟨edits, hedits, rfl⟩⟩

namespace World

variable (ids : Nat → JobId) (w : World) (key : Nat)

def Fails (es : List Event) (e : PacketError) : Prop :=
  some (.resend (.error e)) ∈ told key (World.run ids w es).1

/-- In a run a call launches a job: it is the last job then, and the call stands at it. -/
def Launches (es : List Event) (job : ResendJob) (source edited : Record) : Prop :=
  ∃ before after, es = before ++ .advance key :: after ∧
    let v := (World.run ids w before).2
    let v' := (v.step ids (.advance key)).2
    let n := v.coordinator.jobs.size
    v'.coordinator.jobs =
      v.coordinator.jobs.push (.launch (ids n) job (.ofRecord edited) source.id) ∧
    v'.calls key = some (.launched job.mode n)

theorem Launches.after (past es : List Event) (job : ResendJob) (source edited : Record)
    (h : (World.run ids w past).2.Launches ids key es job source edited) :
    w.Launches ids key (past ++ es) job source edited := by
  obtain ⟨before, after, rfl, hlaunch⟩ := h
  refine ⟨past ++ before, after, by simp, ?_⟩
  rw [World.run_append]
  exact hlaunch

/-- A resend that is settled does not fail any more, but that its job may be aborted. -/
theorem not_fails (call : Call) (hcall : w.calls key = some call) (hs : call.Settled)
    (es : List Event) (e : PacketError) (he : ∀ job, e ≠ .jobAborted job) :
    ¬ w.Fails ids key es e := by
  intro hf
  obtain ⟨event, hk, ha⟩ := (mem_told key _ _).mp hf
  exact not_refused ids w es key call hcall hs event _ hk ha he

theorem fails_ask (hcall : w.calls key = none) (a : Ask) (es : List Event) (e : PacketError) :
    w.Fails ids key (.ask key a :: es) e ↔
      (w.service.start a).answer = some (.resend (.error e)) ∨
      (w.turn key (w.service.start a)).Fails ids key es e := by
  rw [Fails, (w.run_ask ids key hcall a es).1, List.mem_cons, eq_comm]
  rfl

theorem fails_told (hcall : w.calls key = none) (a : Ask) (x : PacketError)
    (ht : w.service.start a = w.service.tell (.resend (.error x))) (es : List Event)
    (e : PacketError) (he : ∀ job, e ≠ .jobAborted job) :
    w.Fails ids key (.ask key a :: es) e ↔ e = x := by
  rw [w.fails_ask ids key hcall, ht]
  rw [or_iff_left (not_fails ids _ key .answered (turn_calls_self _ _ _) trivial es e he)]
  simp [Service.tell, eq_comm]

theorem fails_goOn (hcall : w.calls key = none) (a : Ask) (call : Call)
    (ht : w.service.start a = w.service.goOn call) (es : List Event) (e : PacketError) :
    w.Fails ids key (.ask key a :: es) e ↔
      (w.turn key (w.service.goOn call)).Fails ids key es e := by
  rw [w.fails_ask ids key hcall, ht]
  exact or_iff_right (by simp [Service.goOn])

theorem fails_advance (call : Call) (hcall : w.calls key = some call) (es : List Event)
    (hes : ∀ e ∈ es, e.key? ≠ some key) (t : Turn)
    (ht : (World.run ids w es).2.service.resume ids call = t) (es' : List Event)
    (e : PacketError) :
    w.Fails ids key (es ++ .advance key :: es') e ↔
      t.answer = some (.resend (.error e)) ∨
      ((World.run ids w es).2.turn key t).Fails ids key es' e := by
  rw [Fails, (w.run_advance ids key call hcall es hes es').1, List.mem_cons, ht, eq_comm]
  rfl

theorem fails_settled (call : Call) (hcall : w.calls key = some call) (es : List Event)
    (hes : ∀ e ∈ es, e.key? ≠ some key) (t : Turn)
    (ht : (World.run ids w es).2.service.resume ids call = t) (hs : t.call.Settled)
    (es' : List Event) (e : PacketError) (he : ∀ job, e ≠ .jobAborted job) :
    w.Fails ids key (es ++ .advance key :: es') e ↔
      t.answer = some (.resend (.error e)) := by
  rw [w.fails_advance ids key call hcall es hes t ht es' e]
  exact or_iff_left (not_fails ids _ key t.call (turn_calls_self _ _ _) hs es' e he)

section

variable (job : ResendJob) (inMemory : Bool) (hcall : w.calls key = some (.finding job inMemory))
  (es : List Event) (hes : ∀ e ∈ es, e.key? ≠ some key) (es' : List Event)

include hcall hes

theorem run_missed (hlook : (World.run ids w es).2.store.look inMemory job.source true = none) :
    let v := (World.run ids w (es ++ [.advance key])).2
    v.calls key = some (.finding job false) ∧
      ∀ e, w.Fails ids key (es ++ .advance key :: es') e ↔ v.Fails ids key es' e := by
  intro v
  have ht := (World.run ids w es).2.service.resume_missed ids job inMemory hlook
  have hv : v = (World.run ids w es).2.turn key
      ((World.run ids w es).2.service.goOn (.finding job false)) := by
    rw [← ht]
    exact (w.run_advance ids key _ hcall es hes []).2
  refine ⟨by rw [hv]; exact turn_calls_self _ _ _, fun e => ?_⟩
  rw [w.fails_advance ids key _ hcall es hes _ ht es' e, ← hv]
  exact or_iff_right (by simp [Service.goOn])

theorem fails_lost (x : PacketError)
    (hlook : (World.run ids w es).2.store.look inMemory job.source true = some (.error x))
    (e : PacketError) (he : ∀ job, e ≠ .jobAborted job) :
    w.Fails ids key (es ++ .advance key :: es') e ↔ e = x := by
  have ht := (World.run ids w es).2.service.resume_lost ids job inMemory x hlook
  rw [w.fails_settled ids key _ hcall es hes _ ht trivial es' e he]
  simp [Service.tell, eq_comm]

variable (source : Record)
  (hlook : (World.run ids w es).2.store.look inMemory job.source true = some (.ok source))

include hlook

theorem fails_found (e : PacketError) (he : ∀ job, e ≠ .jobAborted job) :
    w.Fails ids key (es ++ .advance key :: es') e ↔
      applyRules source job.rules job.policy = .error e := by
  cases hrules : applyRules source job.rules job.policy with
  | error x =>
    have ht := (World.run ids w es).2.service.resume_refused ids job inMemory source hlook x hrules
    rw [w.fails_settled ids key _ hcall es hes _ ht trivial es' e he]
    simp [Service.tell]
  | ok edited =>
    have ht :=
      (World.run ids w es).2.service.resume_launched ids job inMemory source hlook edited hrules
    rw [w.fails_settled ids key _ hcall es hes _ ht trivial es' e he]
    simp

theorem launches_found (edited : Record)
    (hrules : applyRules source job.rules job.policy = .ok edited) :
    w.Launches ids key (es ++ .advance key :: es') job source edited := by
  have hstill := (w.run_apart ids key es hes).2.trans hcall
  refine ⟨es, es', rfl, ?_⟩
  simp only [step_launch ids _ key job inMemory source edited hstill hlook hrules]
  exact ⟨rfl, turn_calls_self _ _ _⟩

end

variable {w}

/-- **The packet of a job is the one that is in the table at the second look.** -/
theorem Reachable.finding_decided (hw : w.Reachable ids) (job : ResendJob)
    (hcall : w.calls key = some (.finding job true)) (es es' : List Event)
    (hes : ∀ e ∈ es, e.key? ≠ some key) (hes' : ∀ e ∈ es', e.key? ≠ some key)
    (hread : (World.run ids w (es ++ .advance key :: es')).2.store.Readable) :
    let u := (World.run ids w (es ++ .advance key :: es')).2
    let all := es ++ .advance key :: (es' ++ [.advance key])
    ((∀ r, u.store.Stores r → r.id ≠ job.source) → ∀ e, (∀ job, e ≠ .jobAborted job) →
      (w.Fails ids key all e ↔ e = .notFound job.source)) ∧
    ∀ source, u.store.Stores source → source.id = job.source →
      (∀ e, (∀ job, e ≠ .jobAborted job) →
        (w.Fails ids key all e ↔ applyRules source job.rules job.policy = .error e)) ∧
      ∀ edited, applyRules source job.rules job.policy = .ok edited →
        w.Launches ids key all job source edited := by
  intro u all
  obtain ⟨log, hsound, hcut⟩ := (hw.run es).sound_cut
  obtain ⟨new, hsound', hcut'⟩ := hsound.run_cut (.advance key :: es') hcut
  rw [← World.run_append] at hsound'
  have hfirst : (World.run ids w es).2.store.Archives log := ⟨hsound.holds, hcut⟩
  have hsecond : u.store.Archives (log ++ new) := ⟨hsound'.holds, hcut'⟩
  simp only [hsecond.stores_iff hread]
  rcases hfirst.look_memory job.source with hmissed | ⟨r, hr, hid, hfound⟩
  · -- The second look is taken, and it is in the table.
    obtain ⟨hcall', hfails⟩ :=
      w.run_missed ids key job true hcall es hes (es' ++ [.advance key]) hmissed
    have hu : (World.run ids (World.run ids w (es ++ [.advance key])).2 es').2 = u := by
      rw [← World.run_append, List.append_assoc]
      rfl
    simp only [all, hfails]
    refine ⟨fun hnone e he => ?_, fun source hsource hid => ?_⟩
    · refine fails_lost ids _ key job false hcall' es' hes' [] _ ?_ e he
      rw [hu]
      exact (hsecond.look_absent job.source hnone).2
    · have hlook : u.store.look false job.source true = some (.ok source) := by
        rw [← hid]
        exact hsecond.look_table source hsource (hsecond.whole hread source hsource)
      rw [← hu] at hlook
      refine ⟨fails_found ids _ key job false hcall' es' hes' [] source hlook, ?_⟩
      intro edited hrules
      have hlaunch :=
        launches_found ids _ key job false hcall' es' hes' [] source hlook edited hrules
      rw [List.append_cons]
      exact hlaunch.after
  · -- The packet is found in memory, and it is in the table too.
    have hlater : r ∈ log ++ new := List.mem_append_left new hr
    refine ⟨fun hnone => absurd hid (hnone r hlater), fun source hsource hsame => ?_⟩
    obtain rfl := hsecond.eq_of_id source r hsource hlater (hsame.trans hid.symm)
    exact ⟨w.fails_found ids key job true hcall es hes _ source hfound,
      w.launches_found ids key job true hcall es hes _ source hfound⟩

/-- What a call that looks for the packet of a job can fail with, and when: the packet first, then
the rules. -/
theorem Reachable.finding_order (hw : w.Reachable ids) (job : ResendJob)
    (hcall : w.calls key = some (.finding job true)) (es es' : List Event)
    (hes : ∀ e ∈ es, e.key? ≠ some key) (hes' : ∀ e ∈ es', e.key? ≠ some key)
    (hread : (World.run ids w (es ++ .advance key :: es')).2.store.Readable) :
    let stored := (World.run ids w (es ++ .advance key :: es')).2.store.Stores
    let all := es ++ .advance key :: (es' ++ [.advance key])
    (∀ e, w.Fails ids key all e → (∃ job, e = .jobAborted job) ∨ (∃ id, e = .notFound id) ∨
      ∃ index fault, e = .invalidRule index fault) ∧
    (∀ id, w.Fails ids key all (.notFound id) ↔ id = job.source ∧ ∀ r, stored r → r.id ≠ id) ∧
    ∀ source, stored source → source.id = job.source →
      (∀ index fault, w.Fails ids key all (.invalidRule index fault) ↔
        ∃ before r after, job.rules = before ++ r :: after ∧ before.length = index ∧
          (∀ s ∈ before, ∃ edit, s.compile = .ok edit) ∧ r.compile = .error fault) ∧
      ((∀ r ∈ job.rules, ∃ edit, r.compile = .ok edit) →
        ∃ edited, applyRules source job.rules job.policy = .ok edited ∧
          w.Launches ids key all job source edited) := by
  intro stored all
  obtain ⟨hlost, hfound⟩ := hw.finding_decided ids key job hcall es es' hes hes' hread
  by_cases hstored : ∃ r, stored r ∧ r.id = job.source
  · obtain ⟨r, hr, hsame⟩ := hstored
    obtain ⟨hfails, -⟩ := hfound r hr hsame
    have hkind : ∀ e, (∀ job, e ≠ .jobAborted job) → w.Fails ids key all e →
        ∃ index fault, e = .invalidRule index fault := by
      intro e he hf
      have hrules := (hfails e he).mp hf
      rw [applyRules_error_iff] at hrules
      exact compileFrom_error _ 0 e hrules
    refine ⟨fun e hf => ?_, fun id => ⟨fun hf => ?_, ?_⟩, fun source hsource hsame => ⟨?_, ?_⟩⟩
    · by_cases he : ∃ job, e = .jobAborted job
      · exact .inl he
      · exact .inr (.inr (hkind e (fun job heq => he ⟨job, heq⟩) hf))
    · obtain ⟨_, _, heq⟩ := hkind _ (by simp) hf
      cases heq
    · rintro ⟨rfl, hnone⟩
      exact absurd hsame (hnone r hr)
    · intro index fault
      rw [(hfound source hsource hsame).1 _ (by simp)]
      exact applyRules_invalid_iff source job.rules job.policy index fault
    · intro hrules
      obtain ⟨edited, hedited⟩ := applyRules_accepted source job.rules job.policy hrules
      exact ⟨edited, hedited, (hfound source hsource hsame).2 edited hedited⟩
  · have hnone : ∀ r, stored r → r.id ≠ job.source := fun r hr hsame => hstored ⟨r, hr, hsame⟩
    refine ⟨fun e hf => ?_, fun id => ?_, fun source hsource hsame => ?_⟩
    · by_cases he : ∃ job, e = .jobAborted job
      · exact .inl he
      · exact .inr (.inl ⟨_, (hlost hnone e (fun job heq => he ⟨job, heq⟩)).mp hf⟩)
    · rw [hlost hnone _ (by simp), PacketError.notFound.injEq]
      exact ⟨fun heq => ⟨heq, fun r hr => heq ▸ hnone r hr⟩, And.left⟩
    · exact absurd hsame (hnone source hsource)

end World

def ResendParams.largest : ResendParams :=
  { once 1 "key" with count := some 1000, intervalMs := some 60000 }

def ResendParams.misruled : ResendParams :=
  { once 1 "key" with rules := [.setHeader "X-Ok" "1", ⟨"cookie", "set", some "a=b", none⟩] }

end PacketReplay
