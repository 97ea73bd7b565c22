import PacketReplay.Proofs.Accounting
import PacketReplay.Proofs.Refusal

set_option autoImplicit false

namespace PacketReplay

theorem foldl_or_eq_zero (l : List UInt8) (acc : UInt8) :
    l.foldl (· ||| ·) acc = 0 ↔ acc = 0 ∧ ∀ x ∈ l, x = 0 := by
  induction l generalizing acc with
  | nil => simp
  | cons x l ih => simp [ih, UInt8.or_eq_zero_iff, and_assoc]

theorem zipWith_xor_eq_zero (a b : Bytes) (h : a.length = b.length) :
    (∀ x ∈ List.zipWith (· ^^^ ·) a b, x = 0) ↔ a = b := by
  induction a generalizing b with
  | nil =>
    cases b with
    | nil => simp
    | cons y b => cases h
  | cons x a ih =>
    cases b with
    | nil => cases h
    | cons y b =>
      have htail := ih b (Nat.succ.inj h)
      simp [htail]

theorem equalBytes_iff (a b : Bytes) : equalBytes a b = true ↔ a = b := by
  rw [equalBytes, Bool.and_eq_true, beq_iff_eq, beq_iff_eq, foldl_or_eq_zero]
  constructor
  · rintro ⟨hlength, -, hzero⟩
    exact (zipWith_xor_eq_zero a b hlength).mp hzero
  · rintro rfl
    exact ⟨rfl, rfl, (zipWith_xor_eq_zero a a rfl).mpr rfl⟩

theorem textBytes_inj (s t : String) : textBytes s = textBytes t ↔ s = t := by
  rw [textBytes, textBytes, Array.toList_inj]
  constructor
  · intro h
    exact String.toByteArray_inj.mp (ByteArray.ext h)
  · rintro rfl
    rfl

namespace TrustStore

variable (store : TrustStore) (presented : Option String)

theorem authorize_ok_iff : store.authorize presented = .ok () ↔
    ∃ t p, store.expected = .token t ∧ presented = some p ∧ trim p ≠ "" ∧
      textBytes (trim p) = textBytes t := by
  cases presented with
  | none => simp [authorize]
  | some p =>
    by_cases hp : trim p = ""
    · simp [authorize, hp]
    · rw [authorize, Option.map_some]
      split
      · rename_i h
        cases h
      · rename_i h
        exact absurd (Option.some.inj h) hp
      · rename_i h
        cases h
        cases store.expected with
        | nothing => simp
        | failed => simp
        | token t =>
          by_cases he : equalBytes (textBytes t) (textBytes (trim p)) = true
          · have hbytes := ((equalBytes_iff _ _).mp he).symm
            simp only [if_pos he]
            exact ⟨fun _ => ⟨t, p, rfl, rfl, hp, hbytes⟩, fun _ => trivial⟩
          · simp only [if_neg he]
            constructor
            · intro h
              cases h
            · rintro ⟨_, _, ⟨⟩, ⟨⟩, -, hbytes⟩
              exact absurd ((equalBytes_iff _ _).mpr hbytes.symm) he

/-- Whoever is not let through is told so. -/
theorem authorize_closed : store.authorize presented = .ok () ∨
    ∃ fault, store.authorize presented = .error (.unauthorized fault) := by
  cases h : store.authorize presented with
  | ok => exact .inl rfl
  | error e =>
    obtain ⟨fault, rfl⟩ := store.authorize_error presented e h
    exact .inr ⟨fault, rfl⟩

theorem token_of_text (s t : String) :
    (if trim s = "" then Expected.nothing else .token (trim s)) = .token t ↔
      trim s ≠ "" ∧ trim s = t := by
  by_cases hs : trim s = ""
  · simp [hs]
  · rw [if_neg hs, Expected.token.injEq, and_iff_right hs]

theorem authorize_fixed_iff (text : Option String) : (fixed text).authorize presented = .ok () ↔
    ∃ s p, text = some s ∧ presented = some p ∧ trim p = trim s ∧ trim s ≠ "" := by
  rw [authorize_ok_iff]
  simp only [textBytes_inj]
  cases text with
  | none => simp [expected]
  | some s =>
    simp only [expected, token_of_text]
    constructor
    · rintro ⟨_, p, ⟨hs, rfl⟩, rfl, -, hp⟩
      exact ⟨s, p, rfl, rfl, hp, hs⟩
    · rintro ⟨_, p, ⟨⟩, rfl, hp, hs⟩
      exact ⟨trim s, p, ⟨hs, rfl⟩, rfl, hp ▸ hs, hp⟩

theorem authorize_file_iff (f : TokenFile) : (file f).authorize presented = .ok () ↔
    ∃ contents s p, f = .file contents ∧ bytesText? contents = some s ∧ presented = some p ∧
      trim p = trim s ∧ trim s ≠ "" := by
  rw [authorize_ok_iff]
  simp only [textBytes_inj, expected]
  cases f with
  | missing => simp [TokenFile.expected]
  | unreadable => simp [TokenFile.expected]
  | file contents =>
    cases hc : bytesText? contents with
    | none => simp [TokenFile.expected, hc]
    | some s =>
      simp only [TokenFile.expected, hc, token_of_text]
      constructor
      · rintro ⟨_, p, ⟨hs, rfl⟩, rfl, -, hp⟩
        exact ⟨contents, s, p, rfl, hc, rfl, hp, hs⟩
      · rintro ⟨_, t, p, ⟨⟩, ht, rfl, hp, hs⟩
        obtain rfl := Option.some.inj (hc.symm.trans ht)
        exact ⟨trim s, p, ⟨hs, rfl⟩, rfl, hp ▸ hs, hp⟩

end TrustStore

namespace World

variable (ids : Nat → JobId)

def trusting (w : World) (t : TrustStore) : World :=
  { w with service := { w.service with trust := t } }

/-- The world after a run of events, with the store of the expected token as each finds it. -/
def runTrusting (w : World) (es : List (TrustStore × Event)) : World :=
  es.foldl (fun w p => ((w.trusting p.1).step ids p.2).2) w

theorem runTrusting_concat (w : World) (es : List (TrustStore × Event)) (t : TrustStore)
    (e : Event) : runTrusting ids w (es ++ [(t, e)]) =
      (((runTrusting ids w es).trusting t).step ids e).2 := by
  rw [runTrusting, List.foldl_append]
  rfl

theorem runTrusting_same (w : World) (es : List Event) :
    runTrusting ids w (es.map fun e => (w.service.trust, e)) = (World.run ids w es).2 := by
  induction es generalizing w with
  | nil => rfl
  | cons e es ih =>
    have htrust : (w.step ids e).2.service.trust = w.service.trust := by rw [w.step_service ids e]
    have htail := ih (w.step ids e).2
    rw [htrust] at htail
    exact htail

/-- A call under a key has asked to resend with a token that was accepted. -/
def Accepted (w : World) (es : List (TrustStore × Event)) (key : Nat) : Prop :=
  ∃ before t p after, es = before ++ (t, .ask key (.resend p)) :: after ∧
    (runTrusting ids w before).calls key = none ∧ t.authorize p.accessToken = .ok ()

/-- The job with a number was launched by a part of a call whose token had been accepted. -/
def Admitted (w : World) (es : List (TrustStore × Event)) (n : Nat) : Prop :=
  ∃ before t key after, es = before ++ (t, .advance key) :: after ∧ Accepted ids w before key ∧
    (runTrusting ids w before).coordinator.jobs.size = n ∧
    (runTrusting ids w (before ++ [(t, .advance key)])).coordinator.jobs.size = n + 1

variable {ids} {w : World} {es : List (TrustStore × Event)}

theorem Accepted.concat {key : Nat} (h : Accepted ids w es key) (p : TrustStore × Event) :
    Accepted ids w (es ++ [p]) key := by
  obtain ⟨before, t, q, after, rfl, hnone, ht⟩ := h
  exact ⟨before, t, q, after ++ [p], by simp, hnone, ht⟩

theorem Admitted.concat {n : Nat} (h : Admitted ids w es n) (p : TrustStore × Event) :
    Admitted ids w (es ++ [p]) n := by
  obtain ⟨before, t, key, after, rfl, haccepted, hsize, hmore⟩ := h
  exact ⟨before, t, key, after ++ [p], by simp, haccepted, hsize, hmore⟩

end World

/-- Whether an event is one of the operations of the service, of a captured packet or of jobs. -/
def Event.Served : Event → Prop
  | .ask _ (.execute _) => False
  | .ask _ (.append d _) => d.origin = .captured
  | _ => True

namespace Service

variable (ids : Nat → JobId) (s : Service)

/-- A call that looks for the packet of a job has presented the token. -/
theorem start_finding (a : Ask) (job : ResendJob) (m : Bool)
    (h : (s.start a).call = .finding job m) :
    (∃ p, a = .resend p ∧ s.trust.authorize p.accessToken = .ok ()) ∨ ∃ job, a = .execute job := by
  cases a with
  | resend p =>
    refine .inl ⟨p, rfl, ?_⟩
    rcases s.resendJob_cases p with ⟨e, he, -⟩ | ⟨-, ht, -⟩
    · simp only [start, he] at h
      cases h
    · exact ht
  | execute job => exact .inr ⟨job, rfl⟩
  | history p =>
    simp only [start] at h
    split at h <;> cases h
  | config p => cases h
  | detail p =>
    simp only [start] at h
    split at h <;> cases h
  | append d refusal =>
    simp only [start] at h
    split at h <;> cases h

theorem resume_finding (call : Call) (job : ResendJob) (m : Bool)
    (h : (s.resume ids call).call = .finding job m) : ∃ m', call = .finding job m' := by
  cases call with
  | finding job' inMemory =>
    simp only [resume] at h
    split at h
    · cases h
      exact ⟨inMemory, rfl⟩
    · cases h
    · split at h <;> cases h
  | listing => cases h
  | reading =>
    simp only [resume] at h
    split at h <;> cases h
  | launched mode n =>
    cases mode <;>
    · simp only [resume] at h
      split at h <;> cases h
  | keeping => cases h
  | answered => cases h

theorem Turns.size {before : Ask ⊕ Call} {t : Turn} (h : s.Turns ids before t) :
    t.coordinator.jobs.size = s.coordinator.jobs.size ∨
      (∃ job m, before = .inr (.finding job m)) ∧
        t.coordinator.jobs.size = s.coordinator.jobs.size + 1 := by
  cases h with
  | launch job m hb => exact .inr ⟨⟨job, m, hb⟩, Array.size_push _⟩
  | quiet | insert | mirror => exact .inl rfl

end Service

namespace World

variable (ids : Nat → JobId)

theorem step_size (w : World) (e : Event) :
    (w.step ids e).2.coordinator.jobs.size = w.coordinator.jobs.size ∨
      ∃ key job m, e = .advance key ∧ w.calls key = some (.finding job m) ∧
        (w.step ids e).2.coordinator.jobs.size = w.coordinator.jobs.size + 1 := by
  cases hk : e.key? with
  | none =>
    obtain ⟨-, n, hstep⟩ := w.step_jobStep ids e hk
    exact .inl hstep.size_eq
  | some k =>
    cases e with
    | ask key a =>
      simp only [step]
      split
      · exact .inl rfl
      · rcases (w.service.turns_start ids a).size with hsize | ⟨⟨job, m, hb⟩, -⟩
        · exact .inl hsize
        · cases hb
    | advance key =>
      simp only [step]
      split
      · exact .inl rfl
      · rename_i call hc
        rcases (w.service.turns_resume ids call).size with hsize | ⟨⟨job, m, hb⟩, hsize⟩
        · exact .inl hsize
        · cases hb
          exact .inr ⟨key, job, m, rfl, hc, hsize⟩
    | dispatch | receive | mirror | publish | proceed | wake => cases hk

/-- A call comes to look for the packet of a job by presenting the token, or it did so before. -/
theorem step_finding (w : World) (e : Event) (key : Nat) (job : ResendJob) (m : Bool)
    (h : (w.step ids e).2.calls key = some (.finding job m)) (hserved : e.Served) :
    (∃ m', w.calls key = some (.finding job m')) ∨
      ∃ p, e = .ask key (.resend p) ∧ w.calls key = none ∧
        w.service.trust.authorize p.accessToken = .ok () := by
  by_cases hk : e.key? = some key
  · cases e with
    | ask k a =>
      obtain rfl := Option.some.inj hk
      simp only [step] at h
      split at h
      · exact .inl ⟨m, h⟩
      · rename_i hc
        rw [turn_calls_self] at h
        rcases w.service.start_finding a job m (Option.some.inj h) with ⟨p, rfl, ht⟩ | ⟨job, rfl⟩
        · exact .inr ⟨p, rfl, hc, ht⟩
        · exact hserved.elim
    | advance k =>
      obtain rfl := Option.some.inj hk
      simp only [step] at h
      split at h
      · exact .inl ⟨m, h⟩
      · rename_i call hc
        rw [turn_calls_self] at h
        obtain ⟨m', rfl⟩ := w.service.resume_finding ids call job m (Option.some.inj h)
        exact .inl ⟨m', hc⟩
    | dispatch | receive | mirror | publish | proceed | wake => cases hk
  · rw [w.step_calls_ne ids e key hk] at h
    exact .inl ⟨m, h⟩

/-- After some events, every call that looks for the packet of a job has been let through, and every
job was launched by such a call. -/
structure Gated (w : World) (es : List (TrustStore × Event)) : Prop where
  finding : ∀ key job m, (runTrusting ids w es).calls key = some (.finding job m) →
    Accepted ids w es key
  jobs : ∀ n, n < (runTrusting ids w es).coordinator.jobs.size → Admitted ids w es n

variable {ids}

theorem Gated.concat {w : World} {es : List (TrustStore × Event)} (h : Gated ids w es)
    (t : TrustStore) (e : Event) (hserved : e.Served) : Gated ids w (es ++ [(t, e)]) where
  finding := by
    intro key job m hcall
    rw [runTrusting_concat] at hcall
    rcases step_finding ids _ e key job m hcall hserved with ⟨m', hbefore⟩ | ⟨p, rfl, hnone, ht⟩
    · exact (h.finding key job m' hbefore).concat _
    · exact ⟨es, t, p, [], rfl, hnone, ht⟩
  jobs := by
    intro n hn
    have hconcat := runTrusting_concat ids w es t e
    rcases step_size ids ((runTrusting ids w es).trusting t) e with
      hsize | ⟨key, job, m, rfl, hcall, hsize⟩
    · rw [hconcat, hsize] at hn
      exact (h.jobs n hn).concat _
    · rw [hconcat, hsize] at hn
      by_cases hold : n < (runTrusting ids w es).coordinator.jobs.size
      · exact (h.jobs n hold).concat _
      · have hnew : (runTrusting ids w es).coordinator.jobs.size = n := by
          change n < (runTrusting ids w es).coordinator.jobs.size + 1 at hn
          omega
        refine ⟨es, t, key, [], rfl, h.finding key job m hcall, hnew, ?_⟩
        rw [hconcat, hsize]
        exact congrArg (· + 1) hnew

variable (ids)

theorem gated (s : Service) (store : Store) (hs : s.coordinator = .ofStore store)
    (es : List (TrustStore × Event)) (hserved : ∀ p ∈ es, p.2.Served) :
    Gated ids (.start s) es := by
  induction es using List.reverseRecOn with
  | nil =>
    refine ⟨?_, ?_⟩
    · intro key job m h
      cases h
    · intro n hn
      change n < s.coordinator.jobs.size at hn
      rw [hs] at hn
      cases hn
  | append_singleton es p ih =>
    have hes := ih fun q hq => hserved q (List.mem_append_left _ hq)
    exact hes.concat p.1 p.2 (hserved p (by simp))

end World

theorem Origin.exists_names (o : Origin) (h : o.isResend = true) : ∃ id, o.names id = true := by
  cases o with
  | captured => cases h
  | resend source job attempt => exact ⟨job, beq_self_eq_true job⟩

theorem Event.Served.names_false {e : Event} (h : e.Served) (id : JobId) : e.names id = false := by
  cases e with
  | ask key a =>
    cases a with
    | append d refusal =>
      have hd : d.origin = .captured := h
      simp [names, hd, Origin.names]
    | history | config | detail | resend | execute => rfl
  | advance | dispatch | receive | mirror | publish | proceed | wake => rfl

theorem World.Growth.mem_storedBy {ids : Nat → JobId} {e : Event} {es es' : List Entry}
    {new : List Record} (h : World.Growth ids e es es' new) (n : Nat) (p : Nat × Record)
    (hp : p ∈ storedBy n es) : p ∈ storedBy n es' := by
  cases h with
  | none hs => rwa [hs n]
  | given r hs => rwa [hs n]
  | own m a r hs hm =>
    by_cases hmn : n = m
    · rw [hmn] at hp ⊢
      rw [hs]
      exact List.mem_append_left _ hp
    · rwa [hm n hmn]

/-- A record that came in by a served event is no resend's, or a job has stored it. -/
theorem World.Growth.resend {ids : Nat → JobId} {e : Event} {es es' : List Entry}
    {new : List Record} (h : World.Growth ids e es es' new) (hserved : e.Served) (r : Record)
    (hr : r ∈ new) (hresend : r.origin.isResend = true) :
    ∃ n a, r.origin.names (ids n) = true ∧ (a, r) ∈ storedBy n es' := by
  cases h with
  | none => cases hr
  | given q hs hnames =>
    obtain rfl := List.mem_singleton.mp hr
    obtain ⟨id, hid⟩ := r.origin.exists_names hresend
    rw [hnames, hserved.names_false] at hid
    cases hid
  | own n a q hs hm hnames =>
    obtain rfl := List.mem_singleton.mp hr
    refine ⟨n, a, by rw [hnames, beq_self_eq_true], ?_⟩
    rw [hs]
    simp

namespace World

variable (ids : Nat → JobId)

theorem run_resends (s : Service) (size : Nat → Nat) (ops : List StoreOp)
    (hs : s.coordinator = .ofStore (Store.run size ops).2) (es : List (TrustStore × Event))
    (hserved : ∀ p ∈ es, p.2.Served) :
    ∃ log, (runTrusting ids (.start s) es).Sound ids (logged (Store.run size ops).1 ++ log) ∧
      ∀ r ∈ log, r.origin.isResend = true → ∃ n a, r.origin.names (ids n) = true ∧
        (a, r) ∈ storedBy n (runTrusting ids (.start s) es).entries := by
  induction es using List.reverseRecOn with
  | nil =>
    refine ⟨[], ?_, by simp⟩
    rw [List.append_nil]
    exact sound_start ids s size ops hs
  | append_singleton es p ih =>
    obtain ⟨log, hsound, hlog⟩ := ih fun q hq => hserved q (List.mem_append_left _ hq)
    have htrusting : ((runTrusting ids (.start s) es).trusting p.1).Sound ids
        (logged (Store.run size ops).1 ++ log) :=
      ⟨hsound.holds, hsound.keeping, hsound.finding, hsound.jobs, hsound.unborn⟩
    obtain ⟨new, hnext, hgrowth, -⟩ := htrusting.step p.2
    rw [runTrusting_concat]
    refine ⟨log ++ new, by rwa [← List.append_assoc], fun r hr hresend => ?_⟩
    rcases List.mem_append.mp hr with hold | hnew
    · obtain ⟨n, a, hnames, hstored⟩ := hlog r hold hresend
      exact ⟨n, a, hnames, hgrowth.mem_storedBy n (a, r) hstored⟩
    · exact hgrowth.resend (hserved p (by simp)) r hnew hresend

end World

/-- **Resends need the token.** A call is let through exactly when the store of the expected token
yields one, a token is presented, and what is left of it without blanks around is something and equal
to the expected one byte for byte; it is turned away as unauthorized in every other case. A fixed
token is compared without blanks around it, and so is the text of a file, which must be there and be
readable. In a run of the operations of the service, in which captured packets come in and the store
of the expected token may be another one at every event, a job hands something to the transport or
stores a response only if it was launched by a call that was let through; every record of a resend
that has come into the store was stored by such a job. -/
theorem resends_need_the_token (ids : Nat → JobId) (size : Nat → Nat) (ops : List StoreOp)
    (s : Service) (hs : s.coordinator = .ofStore (Store.run size ops).2)
    (es : List (TrustStore × Event)) (hserved : ∀ p ∈ es, p.2.Served) :
    (∀ (store : TrustStore) (presented : Option String),
      (store.authorize presented = .ok () ↔
        ∃ t p, store.expected = .token t ∧ presented = some p ∧ trim p ≠ "" ∧
          textBytes (trim p) = textBytes t) ∧
      (store.authorize presented = .ok () ∨
        ∃ fault, store.authorize presented = .error (.unauthorized fault))) ∧
    (∀ (text presented : Option String), (TrustStore.fixed text).authorize presented = .ok () ↔
      ∃ t p, text = some t ∧ presented = some p ∧ trim p = trim t ∧ trim t ≠ "") ∧
    (∀ (f : TokenFile) (presented : Option String),
      (TrustStore.file f).authorize presented = .ok () ↔
        ∃ contents t p, f = .file contents ∧ bytesText? contents = some t ∧ presented = some p ∧
          trim p = trim t ∧ trim t ≠ "") ∧
    let w := World.runTrusting ids (.start s) es
    (∀ n, sentBy n w.entries ≠ [] ∨ storedBy n w.entries ≠ [] →
      World.Admitted ids (.start s) es n) ∧
    ∃ log, w.store.Holds (logged (Store.run size ops).1 ++ log) ∧
      ∀ r ∈ log, r.origin.isResend = true → ∃ n a, r.origin.names (ids n) = true ∧
        (a, r) ∈ storedBy n w.entries ∧ World.Admitted ids (.start s) es n := by
  refine ⟨fun store presented => ⟨?_, ?_⟩, fun text presented => ?_, fun f presented => ?_, ?_⟩
  · exact store.authorize_ok_iff presented
  · exact store.authorize_closed presented
  · exact TrustStore.authorize_fixed_iff presented text
  · exact TrustStore.authorize_file_iff presented f
  · intro w
    obtain ⟨log, hsound, hlog⟩ := World.run_resends ids s size ops hs es hserved
    have hgated := World.gated ids s _ hs es hserved
    have hadmitted : ∀ n, sentBy n w.entries ≠ [] ∨ storedBy n w.entries ≠ [] →
        World.Admitted ids (.start s) es n := by
      intro n h
      apply hgated.jobs
      by_contra hn
      obtain ⟨hsent, hstored⟩ := hsound.unborn n (Nat.le_of_not_lt hn)
      rcases h with h | h
      · exact h hsent
      · exact h hstored
    refine ⟨hadmitted, log, hsound.holds, fun r hr hresend => ?_⟩
    obtain ⟨n, a, hnames, hstored⟩ := hlog r hr hresend
    exact ⟨n, a, hnames, hstored, hadmitted n (.inr (List.ne_nil_of_mem hstored))⟩

/-- The resend that sends is let through, though the token is another one soon after. -/
theorem resends_need_the_token_alone :
    let es := (TrustStore.fixed (some " key "), Event.ask 0 (.resend (.once 1 "key"))) ::
      Event.alone.tail.map fun e => (.other .failed, e)
    World.Admitted (fun _ => "") World.guarded es 0 := by
  intro es
  have hserved : ∀ p ∈ es, p.2.Served := by
    intro p hp
    have hp : p ∈ es := hp
    simp only [es, Event.alone, List.tail_cons, List.map_cons, List.map_nil, List.mem_cons,
      List.not_mem_nil, or_false] at hp
    rcases hp with rfl | rfl | rfl | rfl | rfl <;> trivial
  refine (resends_need_the_token (fun _ => "") (fun _ => 1) [.append (.bare "/") none]
    World.guarded.service rfl es hserved).2.2.2.1 0 (.inl ?_)
  exact List.cons_ne_nil _ _

end PacketReplay
