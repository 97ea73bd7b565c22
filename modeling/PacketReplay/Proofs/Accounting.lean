import PacketReplay.Proofs.JobAccount

/-!
# Jobs are accounted for exactly

Whatever calls and other jobs do in between, the history, the store and the counts of a job tell the
same story. The invariant is one of the whole world: the store holds a log, every job has an account
against the history, and what a job has stored is part of the log. That the rows which name a job
are those it has stored is said under the condition that nobody else uses its id.
-/

set_option autoImplicit false

namespace PacketReplay

def Origin.names (id : JobId) : Origin → Bool
  | .captured => false
  | .resend _ job _ => job == id

/-- Whether the origin that a row's JSON writes names a job. -/
def Row.names (id : JobId) (row : Row) : Bool :=
  match row.read .origin Cell.text? with
  | .error _ => false
  | .ok text =>
    match Row.readJson .origin Origin.ofJson? text with
    | .error _ => false
    | .ok o => o.names id

theorem Record.names_row (r : Record) (id : JobId) : r.row.names id = r.origin.names id := by
  simp only [Row.names, Record.read_origin, Row.readJson_origin]

/-- Whether an event stores a packet that names a job, not being a step of that job. -/
def Event.names (id : JobId) : Event → Bool
  | .ask _ (.append d _) => d.origin.names id
  | _ => false

/-- The worlds that events lead to from a service without calls or jobs over a store that was run. -/
inductive World.Reachable (ids : Nat → JobId) : World → Prop where
  | start (service : Service) (size : Nat → Nat) (ops : List StoreOp)
      (h : service.coordinator = .ofStore (Store.run size ops).2) :
    Reachable ids (World.start service)
  | next (w : World) (h : Reachable ids w) (e : Event) : Reachable ids (w.step ids e).2

structure Job.Sound (ids : Nat → JobId) (log : List Record) (es : List Entry) (n : Nat) (j : Job) :
    Prop where
  account : ∃ made replied pending, j.Account n es made replied pending
  id : j.progress.job = ids n
  stored : ((storedBy n es).map Prod.snd).Sublist log
  keeping : ∀ a r, j.phase = .keeping a r → r ∈ log

structure World.Sound (ids : Nat → JobId) (log : List Record) (w : World) : Prop where
  holds : w.store.Holds log
  keeping : ∀ key r, w.calls key = some (.keeping r) → r ∈ log
  finding : ∀ key job m, w.calls key = some (.finding job m) → job.count ≠ 0
  jobs : ∀ (n : Nat) (j : Job), w.coordinator.jobs[n]? = some j → j.Sound ids log w.entries n
  unborn : ∀ n, w.coordinator.jobs.size ≤ n → sentBy n w.entries = [] ∧ storedBy n w.entries = []

inductive World.Growth (ids : Nat → JobId) (e : Event) (es es' : List Entry) : List Record → Prop where
  | none (h : ∀ n, storedBy n es' = storedBy n es) : Growth ids e es es' []
  | given (r : Record) (h : ∀ n, storedBy n es' = storedBy n es)
      (he : ∀ id, r.origin.names id = e.names id) : Growth ids e es es' [r]
  | own (n a : Nat) (r : Record) (h : storedBy n es' = storedBy n es ++ [(a, r)])
      (hm : ∀ m, m ≠ n → storedBy m es' = storedBy m es)
      (hr : ∀ id, r.origin.names id = (ids n == id)) : Growth ids e es es' [r]

theorem World.sound_start (ids : Nat → JobId) (service : Service) (size : Nat → Nat)
    (ops : List StoreOp) (h : service.coordinator = .ofStore (Store.run size ops).2) :
    (World.start service).Sound ids (logged (Store.run size ops).1) where
  holds := by
    have hs : (World.start service).store = (Store.run size ops).2 := by
      change service.coordinator.store = _
      rw [h]
      rfl
    rw [hs]
    exact Store.run_holds size ops
  keeping := by simp [World.start]
  finding := by simp [World.start]
  jobs := by
    intro n j hj
    change service.coordinator.jobs[n]? = some j at hj
    rw [h] at hj
    simp [Coordinator.ofStore] at hj
  unborn := fun _ _ => ⟨rfl, rfl⟩

theorem Job.Sound.extend {ids : Nat → JobId} {log : List Record} {es : List Entry} {n : Nat}
    {j : Job} (h : j.Sound ids log es n) (new : List Record) (es' : List Entry)
    (hs : sentBy n es' = []) (ht : storedBy n es' = []) : j.Sound ids (log ++ new) (es ++ es') n where
  account := by
    obtain ⟨made, replied, pending, ha⟩ := h.account
    exact ⟨made, replied, pending, ha.extend es' hs ht⟩
  id := h.id
  stored := by
    rw [storedBy_append, ht, List.append_nil]
    exact h.stored.trans (List.sublist_append_left log new)
  keeping := fun a r hp => List.mem_append_left new (h.keeping a r hp)

namespace World.Sound

variable {ids : Nat → JobId} {log : List Record} {w : World}

theorem turn_store (h : w.Sound ids log) (key : Nat) (t : Turn) (new : List Record) (s : Store)
    (hc : t.coordinator = { w.coordinator with store := s }) (hs : s.Holds (log ++ new))
    (hk : ∀ r, t.call = .keeping r → r ∈ log ++ new)
    (hf : ∀ job m, t.call = .finding job m → job.count ≠ 0) :
    (w.turn key t).Sound ids (log ++ new) where
  holds := by
    change t.coordinator.store.Holds _
    rw [hc]
    exact hs
  keeping := by
    intro k r hr
    rw [turn_calls] at hr
    split at hr
    · exact hk r (Option.some.inj hr)
    · exact List.mem_append_left new (h.keeping k r hr)
  finding := by
    intro k job m hm
    rw [turn_calls] at hm
    split at hm
    · exact hf job m (Option.some.inj hm)
    · exact h.finding k job m hm
  jobs := by
    intro n j hj
    change t.coordinator.jobs[n]? = some j at hj
    rw [hc] at hj
    have hx := (h.jobs n j hj).extend new [] rfl rfl
    rwa [List.append_nil] at hx
  unborn := by
    intro n hn
    change t.coordinator.jobs.size ≤ n at hn
    rw [hc] at hn
    exact h.unborn n hn

theorem turn_launch (h : w.Sound ids log) (key : Nat) (job : ResendJob) (hcount : job.count ≠ 0)
    (source : PacketId) (request : OutboundRequest) :
    (w.turn key ⟨.launched job.mode w.coordinator.jobs.size, none,
      (w.coordinator.enlist (ids w.coordinator.jobs.size) job source request).2⟩).Sound ids log where
  holds := h.holds
  keeping := by
    intro k r hr
    rw [turn_calls] at hr
    split at hr
    · cases hr
    · exact h.keeping k r hr
  finding := by
    intro k job' m hm
    rw [turn_calls] at hm
    split at hm
    · cases hm
    · exact h.finding k job' m hm
  jobs := by
    intro n j hj
    change (w.coordinator.jobs.push _)[n]? = some j at hj
    rw [Array.getElem?_push] at hj
    split at hj
    · rename_i hn
      cases hj
      have hu := h.unborn n (Nat.le_of_eq hn.symm)
      refine ⟨⟨0, 0, none, ?_⟩, ?_, ?_, ?_⟩
      · exact Job.account_launch n w.entries hu.1 hu.2 _ job hcount request source
      · rw [hn]
        rfl
      · change ((storedBy n w.entries).map Prod.snd).Sublist log
        rw [hu.2]
        exact List.nil_sublist log
      · exact fun a r hp => by cases hp
    · exact h.jobs n j hj
  unborn := by
    intro n hn
    change (w.coordinator.jobs.push _).size ≤ n at hn
    rw [Array.size_push] at hn
    exact h.unborn n (by omega)

end World.Sound

/-- What a move does to the log: nothing, or it stores the response to one attempt. -/
theorem Job.Move.log_cases {n : Nat} {s s' : Store} {j j' : Job} {es : List Entry}
    {log : List Record} (hm : Job.Move n s j s' j' es) (hs : s.Holds log)
    (hk : ∀ a r, j.phase = .keeping a r → r ∈ log) :
    (s'.Holds log ∧ storedBy n es = [] ∧ ∀ a r, j'.phase = .keeping a r → r ∈ log) ∨
    ∃ a r, s'.Holds (log ++ [r]) ∧ storedBy n es = [(a, r)] ∧ r.toDraft.cut = r.toDraft ∧
      (∀ id, r.origin.names id = (j.progress.job == id)) ∧
      ∀ b q, j'.phase = .keeping b q → q ∈ log ++ [r] := by
  cases hm with
  | keep a hp response now r s' hi =>
    have hd := congrArg Draft.origin (Store.insert_draft s _ r s' hi)
    refine .inr ⟨a, r, (hs.insert_ok _ r s' hi).1, by simp [storedBy, Entry.stored?],
      Store.insert_cut s _ r s' hi, ?_, ?_⟩
    · intro id
      rw [hd]
      rfl
    · intro b q hq
      cases hq
      simp
  | mirror a r hp => exact .inl ⟨hs.mirror r (hk a r hp), rfl, fun b q hq => by cases hq⟩
  | dispatch => exact .inl ⟨hs, rfl, fun b q hq => by cases hq⟩
  | fail => exact .inl ⟨hs, rfl, fun b q hq => by cases hq⟩
  | drop => exact .inl ⟨hs, rfl, fun b q hq => by cases hq⟩
  | die => exact .inl ⟨hs, rfl, fun b q hq => by cases hq⟩
  | publish => exact .inl ⟨hs, rfl, fun b q hq => by cases hq⟩
  | next => exact .inl ⟨hs, rfl, fun b q hq => by cases hq⟩
  | pause => exact .inl ⟨hs, rfl, fun b q hq => by cases hq⟩
  | finish => exact .inl ⟨hs, rfl, fun b q hq => by cases hq⟩
  | wake => exact .inl ⟨hs, rfl, fun b q hq => by cases hq⟩

namespace World.Sound

variable {ids : Nat → JobId} {log : List Record} {w : World}

theorem moved_of (h : w.Sound ids log) (n : Nat) (j : Job) (hj : w.coordinator.jobs[n]? = some j)
    (s : Store) (j' : Job) (es : List Entry) (hm : Job.Move n w.store j s j' es)
    (new : List Record) (hs : s.Holds (log ++ new)) (hst : (storedBy n es).map Prod.snd = new)
    (hk : ∀ a r, j'.phase = .keeping a r → r ∈ log ++ new) :
    (w.moved n s j' es).Sound ids (log ++ new) where
  holds := hs
  keeping := fun key r hr => List.mem_append_left new (h.keeping key r hr)
  finding := h.finding
  jobs := by
    intro m i hi
    change (w.coordinator.put n s j').jobs[m]? = some i at hi
    rw [Coordinator.getElem?_put] at hi
    split at hi
    · rename_i hnm
      obtain rfl := hnm
      rw [hj] at hi
      cases hi
      have hsound := h.jobs n j hj
      obtain ⟨made, replied, pending, ha⟩ := hsound.account
      refine ⟨hm.account ha, hm.kept.job.trans hsound.id, ?_, hk⟩
      change ((storedBy n (w.entries ++ es)).map Prod.snd).Sublist _
      rw [storedBy_append, List.map_append, hst]
      exact hsound.stored.append_right new
    · rename_i hnm
      have ho := hm.others m hnm
      exact (h.jobs m i hi).extend new es ho.1 ho.2
  unborn := by
    intro m hmsize
    change (w.coordinator.jobs.modify n _).size ≤ m at hmsize
    rw [Array.size_modify] at hmsize
    have hn : n < w.coordinator.jobs.size := (Array.getElem?_eq_some_iff.mp hj).1
    have hu := h.unborn m hmsize
    have ho := hm.others m (by omega)
    change sentBy m (w.entries ++ es) = [] ∧ storedBy m (w.entries ++ es) = []
    rw [sentBy_append, storedBy_append, hu.1, hu.2, ho.1, ho.2]
    exact ⟨rfl, rfl⟩

theorem moved (h : w.Sound ids log) (e : Event) (n : Nat) (j : Job)
    (hj : w.coordinator.jobs[n]? = some j) (s : Store) (j' : Job) (es : List Entry)
    (hm : Job.Move n w.store j s j' es) :
    ∃ new, (w.moved n s j' es).Sound ids (log ++ new) ∧
      World.Growth ids e w.entries (w.moved n s j' es).entries new ∧
      ∀ r ∈ new, r.toDraft.cut = r.toDraft := by
  have hsound := h.jobs n j hj
  have hothers : ∀ m, m ≠ n → storedBy m (w.entries ++ es) = storedBy m w.entries := by
    intro m hmn
    rw [storedBy_append, (hm.others m fun he => hmn he.symm).2, List.append_nil]
  rcases hm.log_cases h.holds hsound.keeping with ⟨hs, hst, hk⟩ | ⟨a, r, hs, hst, hcut, hr, hk⟩
  · refine ⟨[], h.moved_of n j hj s j' es hm [] ?_ ?_ ?_, .none ?_, by simp⟩
    · rw [List.append_nil]
      exact hs
    · rw [hst]
      rfl
    · rw [List.append_nil]
      exact hk
    · intro m
      change storedBy m (w.entries ++ es) = _
      by_cases hmn : m = n
      · rw [hmn, storedBy_append, hst, List.append_nil]
      · exact hothers m hmn
  · refine ⟨[r], h.moved_of n j hj s j' es hm [r] hs ?_ hk, .own n a r ?_ hothers ?_,
      List.forall_mem_singleton.mpr hcut⟩
    · rw [hst]
      rfl
    · change storedBy n (w.entries ++ es) = _
      rw [storedBy_append, hst]
    · rw [← hsound.id]
      exact hr

/-- **Every event keeps the world in order.** -/
theorem step (h : w.Sound ids log) (e : Event) :
    ∃ new, (w.step ids e).2.Sound ids (log ++ new) ∧
      World.Growth ids e w.entries (w.step ids e).2.entries new ∧
      ∀ r ∈ new, r.toDraft.cut = r.toDraft := by
  have hnil : w.Sound ids (log ++ []) := by rwa [List.append_nil]
  have hstay : ∀ es, es = w.entries → World.Growth ids e w.entries es [] ∧
      ∀ r ∈ ([] : List Record), r.toDraft.cut = r.toDraft := by
    rintro es rfl
    exact ⟨.none fun _ => rfl, by simp⟩
  have heff := w.step_effect ids e
  generalize (w.step ids e).2 = w' at heff
  cases heff with
  | idle => exact ⟨[], hnil, hstay _ rfl⟩
  | ask key a he hcall t ht =>
    cases ht with
    | quiet call answer hk hf =>
      refine ⟨[], h.turn_store key _ [] w.store rfl hnil.holds ?_ ?_, hstay _ rfl⟩
      · exact fun r hr => absurd hr (hk r)
      · intro job m hm
        rcases hf job m hm with hc | ⟨m', hm'⟩
        · exact hc
        · cases hm'
    | launch job m hb => cases hb
    | insert d refusal hb r s hi =>
      cases hb
      have hins := h.holds.insert_ok d r s hi
      refine ⟨[r], h.turn_store key _ [r] s rfl hins.1 ?_ ?_, .given r (fun _ => rfl) ?_,
        List.forall_mem_singleton.mpr (Store.insert_cut w.store d r s hi)⟩
      · intro q hq
        cases hq
        simp
      · exact fun job m hm => by cases hm
      · intro id
        rw [he, congrArg Draft.origin (Store.insert_draft w.store d r s hi)]
        rfl
    | mirror r hb => cases hb
  | advance key call hcall t ht =>
    cases ht with
    | quiet call' answer hk hf =>
      refine ⟨[], h.turn_store key _ [] w.store rfl hnil.holds ?_ ?_, hstay _ rfl⟩
      · exact fun r hr => absurd hr (hk r)
      · intro job m hm
        rcases hf job m hm with hc | ⟨m', hm'⟩
        · exact hc
        · cases hm'
          exact h.finding key job m' hcall
    | launch job m hb source edited he =>
      cases hb
      refine ⟨[], ?_, hstay _ rfl⟩
      rw [List.append_nil]
      exact h.turn_launch key job (h.finding key job m hcall) source.id (.ofRecord edited)
    | insert d refusal hb => cases hb
    | mirror r hb =>
      cases hb
      refine ⟨[], h.turn_store key _ [] (w.store.mirror r) rfl ?_ ?_ ?_, hstay _ rfl⟩
      · exact hnil.holds.mirror r (List.mem_append_left [] (h.keeping key r hcall))
      · exact fun q hq => by cases hq
      · exact fun job m hm => by cases hm
  | job n w' hstep =>
    cases hstep with
    | idle => exact ⟨[], hnil, hstay _ rfl⟩
    | move j hj s j' es hm => exact h.moved e n j hj s j' es hm

end World.Sound

theorem World.Reachable.sound {ids : Nat → JobId} {w : World} (h : w.Reachable ids) :
    ∃ log, w.Sound ids log := by
  induction h with
  | start service size ops hs => exact ⟨_, World.sound_start ids service size ops hs⟩
  | next w _ e ih =>
    obtain ⟨log, hl⟩ := ih
    obtain ⟨new, hn, -⟩ := hl.step e
    exact ⟨log ++ new, hn⟩

theorem World.step_kept (ids : Nat → JobId) (w : World) (e : Event) (n : Nat) (j : Job)
    (hj : w.coordinator.jobs[n]? = some j) :
    ∃ j', (w.step ids e).2.coordinator.jobs[n]? = some j' ∧ j.Kept j' := by
  obtain ⟨j', hj', rfl | ⟨s, es, hm⟩⟩ := w.step_job ids e n j hj
  · exact ⟨j', hj', .refl j'⟩
  · exact ⟨j', hj', hm.kept⟩

theorem World.run_kept (ids : Nat → JobId) (es : List Event) (w : World) (n : Nat) (j : Job)
    (hj : w.coordinator.jobs[n]? = some j) :
    ∃ j', (World.run ids w es).2.coordinator.jobs[n]? = some j' ∧ j.Kept j' := by
  induction es generalizing w j with
  | nil => exact ⟨j, hj, .refl j⟩
  | cons e es ih =>
    obtain ⟨j₁, hj₁, hk₁⟩ := World.step_kept ids w e n j hj
    obtain ⟨j₂, hj₂, hk₂⟩ := ih (w.step ids e).2 j₁ hj₁
    exact ⟨j₂, hj₂, hk₁.trans hk₂⟩

theorem World.Sound.run {ids : Nat → JobId} (es : List Event) (w : World) (log : List Record)
    (h : w.Sound ids log) : ∃ log', (World.run ids w es).2.Sound ids log' := by
  induction es generalizing w log with
  | nil => exact ⟨log, h⟩
  | cons e es ih =>
    obtain ⟨new, hn, -⟩ := h.step e
    exact ih _ _ hn

/-- A new record names a job only if the job has stored it. -/
theorem World.Growth.named {ids : Nat → JobId} {e : Event} {es es' : List Entry} {new : List Record}
    (h : World.Growth ids e es es' new) (n : Nat) (hid : ∀ m, ids m = ids n → m = n)
    (he : e.names (ids n) = false) :
    (storedBy n es').map Prod.snd =
      (storedBy n es).map Prod.snd ++ new.filter fun r => r.origin.names (ids n) := by
  cases h with
  | none hs => rw [hs n, List.filter_nil, List.append_nil]
  | given r hs hr =>
    have hf : r.origin.names (ids n) = false := by rw [hr, he]
    rw [hs n, List.filter_cons_of_neg (by simp [hf]), List.filter_nil, List.append_nil]
  | own m a r hs hm hr =>
    by_cases hmn : m = n
    · obtain rfl := hmn
      have ht : r.origin.names (ids m) = true := by rw [hr, beq_self_eq_true]
      rw [hs, List.filter_cons_of_pos (by simpa using ht), List.filter_nil, List.map_append]
      rfl
    · have hf : r.origin.names (ids n) = false := by
        rw [hr, beq_eq_false_iff_ne]
        exact fun hx => hmn (hid m hx)
      rw [hm n fun hx => hmn hx.symm, List.filter_cons_of_neg (by simp [hf]), List.filter_nil,
        List.append_nil]

/-- The records of a log that name a job are those that the job has stored, as long as nobody else
uses its id. -/
theorem World.Sound.run_named {ids : Nat → JobId} (n : Nat) (hid : ∀ m, ids m = ids n → m = n)
    (es : List Event) (he : ∀ e ∈ es, e.names (ids n) = false) (w : World) (log : List Record)
    (h : w.Sound ids log)
    (hlog : log.filter (fun r => r.origin.names (ids n)) = (storedBy n w.entries).map Prod.snd) :
    ∃ log', (World.run ids w es).2.Sound ids log' ∧
      log'.filter (fun r => r.origin.names (ids n)) =
        (storedBy n (World.run ids w es).2.entries).map Prod.snd := by
  induction es generalizing w log with
  | nil => exact ⟨log, h, hlog⟩
  | cons e es ih =>
    obtain ⟨new, hn, hg, -⟩ := h.step e
    refine ih (fun e' he' => he e' (by simp [he'])) _ (log ++ new) hn ?_
    rw [List.filter_append, hlog]
    exact (hg.named n hid (he e (by simp))).symm

/-- Nobody but the job with a number uses its id: no other job is given it, no row has it when the
job is launched, and no packet is added that has it. -/
structure World.OwnId (ids : Nat → JobId) (w : World) (n : Nat) (after : List Event) : Prop where
  supply : ∀ m, ids m = ids n → m = n
  rows : ∀ t, w.store.table = some t → ∀ row ∈ t.rows, row.names (ids n) = false
  events : ∀ e ∈ after, e.names (ids n) = false

theorem Table.Logs.filter_names {t : Table} {log : List Record} (h : t.Logs log) (id : JobId) :
    t.rows.filter (Row.names id) = (log.filter fun r => r.origin.names id).map Record.row := by
  rw [h.rows, List.filter_map]
  congr 1
  apply List.filter_congr
  intro r _
  exact r.names_row id

theorem World.Sound.filter_names_of_rows {ids : Nat → JobId} {w : World} {log : List Record}
    (h : w.Sound ids log) (id : JobId)
    (hrows : ∀ t, w.store.table = some t → ∀ row ∈ t.rows, row.names id = false) :
    log.filter (fun r => r.origin.names id) = [] := by
  obtain ⟨t, ht, hl⟩ := h.holds.table
  rw [List.filter_eq_nil_iff]
  intro r hr
  rw [← r.names_row id, hrows t ht r.row (by rw [hl.rows]; exact List.mem_map_of_mem hr)]
  simp

theorem World.step_launch (ids : Nat → JobId) (w : World) (key : Nat) (job : ResendJob)
    (inMemory : Bool) (source edited : Record)
    (hcall : w.calls key = some (.finding job inMemory))
    (hsource : w.store.look inMemory job.source true = some (.ok source))
    (hrules : applyRules source job.rules job.policy = .ok edited) :
    (w.step ids (.advance key)).2 =
      w.turn key ⟨.launched job.mode w.coordinator.jobs.size, none,
        (w.coordinator.enlist (ids w.coordinator.jobs.size) job source.id (.ofRecord edited)).2⟩ := by
  have hs : w.service.store.look inMemory job.source true = some (.ok source) := hsource
  simp only [World.step, hcall, Service.resume, hs, Coordinator.startOn, hrules]
  rfl

theorem World.Sound.launched {ids : Nat → JobId} {w : World} {log : List Record}
    (h : w.Sound ids log) (key : Nat) (job : ResendJob) (inMemory : Bool) (source edited : Record)
    (hcall : w.calls key = some (.finding job inMemory))
    (hsource : w.store.look inMemory job.source true = some (.ok source))
    (hrules : applyRules source job.rules job.policy = .ok edited) :
    (w.step ids (.advance key)).2.Sound ids log ∧
      (w.step ids (.advance key)).2.coordinator.jobs[w.coordinator.jobs.size]? =
        some (Job.launch (ids w.coordinator.jobs.size) job (.ofRecord edited) source.id) := by
  rw [World.step_launch ids w key job inMemory source edited hcall hsource hrules]
  exact ⟨h.turn_launch key job (h.finding key job inMemory hcall) source.id (.ofRecord edited),
    Array.getElem?_push_size⟩

/-- **Jobs are accounted for exactly.** From any reachable world, let a call that has found its packet
launch a job, and let any events follow. The attempts handed over are the first ones, in order and
each once, all with the request made at launch. What the job has stored is numbered and ordered as it
was sent. A job that has ended has a result, and every result balances: all attempts were handed over,
and each is either stored or among the failures. At every point the rows that name the job are those
it has stored, as long as nobody else uses its id. -/
theorem World.job_accounting (ids : Nat → JobId) (w₀ : World) (h₀ : w₀.Reachable ids) (key : Nat)
    (job : ResendJob) (inMemory : Bool) (source edited : Record)
    (hcall : w₀.calls key = some (.finding job inMemory))
    (hsource : w₀.store.look inMemory job.source true = some (.ok source))
    (hrules : applyRules source job.rules job.policy = .ok edited) (after : List Event) :
    let n := w₀.coordinator.jobs.size
    let w := (World.run ids w₀ (.advance key :: after)).2
    let stored := storedBy n w.entries
    ∃ j made, w.coordinator.jobs[n]? = some j ∧ made ≤ job.count.toNat ∧
      sentBy n w.entries = (List.range' 1 made).map (fun a => (a, .ofRecord edited)) ∧
      (∀ p ∈ stored, p.2.origin = .resend source.id (ids n) p.1.toUInt32) ∧
      (stored.map fun p => p.1).Pairwise (· < ·) ∧
      (stored.map fun p => p.2.id).Pairwise (· < ·) ∧
      (j.phase = .finished → ∃ r, j.progress.result = some r) ∧
      (∀ r, j.progress.result = some r →
        made = job.count.toNat ∧ r.Balanced n w.entries job.count) ∧
      (w₀.OwnId ids n after → ∃ t, w.store.table = some t ∧
        t.rows.filter (Row.names (ids n)) = stored.map fun p => p.2.row) := by
  intro n w stored
  obtain ⟨log₀, hs₀⟩ := h₀.sound
  have hstep := World.step_launch ids w₀ key job inMemory source edited hcall hsource hrules
  have hs₁ := hs₀.turn_launch key job (hs₀.finding key job inMemory hcall) source.id
    (.ofRecord edited)
  rw [← hstep] at hs₁
  have hj₁ : (w₀.step ids (.advance key)).2.coordinator.jobs[n]? =
      some (Job.launch (ids n) job (.ofRecord edited) source.id) := by
    rw [hstep]
    exact Array.getElem?_push_size
  obtain ⟨j, hj, hk⟩ := World.run_kept ids after _ n _ hj₁
  obtain ⟨log, hs⟩ := hs₁.run after
  have hjob := hs.jobs n j hj
  obtain ⟨made, replied, pending, ha⟩ := hjob.account
  have hcount : j.count = job.count := hk.count
  refine ⟨j, made, hj, ?_, ?_, ?_, ha.order, ?_, ?_, ?_, ?_⟩
  · rw [← hcount]
    exact ha.phase.made_le
  · rw [show w.entries = (World.run ids (w₀.step ids (.advance key)).2 after).2.entries from rfl,
      ha.sent, hk.request]
    rfl
  · intro p hp
    rw [ha.origins p hp, hk.source, hk.job]
    rfl
  · obtain ⟨t, -, hl⟩ := hs.holds.table
    have hsub := hl.rising.sublist hjob.stored
    have hids := List.pairwise_map (f := fun r : Record => r.id) (R := (· < ·)) |>.mpr hsub
    rwa [List.map_map] at hids
  · intro hf
    obtain ⟨ms, hms⟩ := ha.finished hf
    exact ⟨_, hms⟩
  · intro r hr
    rw [← hcount]
    exact ha.of_result r hr
  · intro hown
    have hnil := hs₀.filter_names_of_rows (ids n) hown.rows
    have hu : storedBy n (w₀.step ids (.advance key)).2.entries = [] := by
      rw [hstep]
      exact (hs₀.unborn n (Nat.le_refl _)).2
    obtain ⟨log', hs', hlog'⟩ := World.Sound.run_named n hown.supply after hown.events _ log₀ hs₁
      (by rw [hnil, hu]; rfl)
    obtain ⟨t, ht, hl⟩ := hs'.holds.table
    refine ⟨t, ht, ?_⟩
    rw [hl.filter_names, hlog', List.map_map]
    rfl

def Service.over (s : Store) : Service :=
  ⟨.ofStore s, .fixed none, ⟨[]⟩, 1000, 60000⟩

/-- Ids that are told apart by their length. -/
def strokes (n : Nat) : JobId :=
  String.ofList (List.replicate n 'x')

def World.twice : World :=
  ((World.start (.over (Store.run (fun _ => 1) [.append (.bare "/") none]).2)).step strokes
    (.ask 0 (.execute { ResendJob.once 1 with count := 2 }))).2

def Event.twice : List Event :=
  [.dispatch 0, .receive 0 (.delivery (.failed "lost")) .epoch none, .publish 0,
    .proceed 0 5, .dispatch 0,
    .receive 0 (.delivery (.delivered ⟨200, [], []⟩)) .epoch none, .mirror 0, .publish 0,
    .proceed 0 5]

theorem World.twice_result :
    (World.run strokes World.twice (.advance 0 :: Event.twice)).2.coordinator.jobs[0]?.bind
      (fun j => j.progress.result) = some ⟨"", 1, false, 1, 1, [2], [⟨1, "lost"⟩], 5⟩ := rfl

theorem World.job_accounting_twice :
    let w := (World.run strokes World.twice (.advance 0 :: Event.twice)).2
    ∃ j r, w.coordinator.jobs[0]? = some j ∧ j.progress.result = some r ∧ r.packetIds = [2] ∧
      r.failures = [⟨1, "lost"⟩] ∧ r.Balanced 0 w.entries 2 := by
  have hreach : World.twice.Reachable strokes :=
    .next _ (.start _ (fun _ => 1) [.append (.bare "/") none] rfl) _
  have hn : World.twice.coordinator.jobs.size = 0 := rfl
  have h := World.job_accounting strokes World.twice hreach 0 { ResendJob.once 1 with count := 2 }
    true ((Draft.bare "/").withId 1) ((Draft.bare "/").withId 1) rfl rfl rfl Event.twice
  rw [hn] at h
  obtain ⟨j, made, hj, -, -, -, -, -, -, hr, -⟩ := h
  have hresult := World.twice_result
  rw [hj, Option.bind_some] at hresult
  exact ⟨j, _, hj, hresult, rfl, rfl, (hr _ hresult).2⟩

end PacketReplay
