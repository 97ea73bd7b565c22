import PacketReplay.Proofs.WorldStep

set_option autoImplicit false

namespace PacketReplay

def Entry.sent? (n : Nat) : Entry → Option (Nat × OutboundRequest)
  | .sent m a request => if m = n then some (a, request) else none
  | _ => none

def Entry.stored? (n : Nat) : Entry → Option (Nat × Record)
  | .replied m a (.delivery (.delivered _)) (some r) => if m = n then some (a, r) else none
  | _ => none

/-- The attempts of a job that were handed over, in order, with their requests. -/
def sentBy (n : Nat) (es : List Entry) : List (Nat × OutboundRequest) :=
  es.filterMap (Entry.sent? n)

/-- The attempts of a job that were delivered and stored, in order, with their records. -/
def storedBy (n : Nat) (es : List Entry) : List (Nat × Record) :=
  es.filterMap (Entry.stored? n)

theorem sentBy_append (n : Nat) (es es' : List Entry) :
    sentBy n (es ++ es') = sentBy n es ++ sentBy n es' :=
  List.filterMap_append

theorem storedBy_append (n : Nat) (es es' : List Entry) :
    storedBy n (es ++ es') = storedBy n es ++ storedBy n es' :=
  List.filterMap_append

theorem Job.Move.others {n : Nat} {s s' : Store} {j j' : Job} {es : List Entry}
    (h : Job.Move n s j s' j' es) (m : Nat) (hm : n ≠ m) : sentBy m es = [] ∧ storedBy m es = [] := by
  cases h <;> simp [sentBy, storedBy, Entry.sent?, Entry.stored?, hm]

/-- How many attempts a job has handed over and how many of them were answered, and the attempt that
is answered and not yet counted. -/
inductive Phase.At (count : Nat) : Phase → Nat → Nat → Option (Nat × Attempted) → Prop where
  | ready (a : Nat) (h : a < count) : At count (.ready (a + 1)) a a none
  | sending (a : Nat) (h : a < count) : At count (.sending (a + 1)) (a + 1) a none
  | keeping (a : Nat) (h : a < count) (r : Record) :
    At count (.keeping (a + 1) r) (a + 1) (a + 1) (some (a + 1, .stored r.id))
  | judged (a : Nat) (h : a < count) (what : Attempted) :
    At count (.judged (a + 1) what) (a + 1) (a + 1) (some (a + 1, what))
  | published (a : Nat) (h : a < count) : At count (.published (a + 1)) (a + 1) (a + 1) none
  | pausing (a : Nat) (ms : UInt64) (h : a + 1 < count) :
    At count (.pausing (a + 1) ms) (a + 1) (a + 1) none
  | finished : At count .finished count count none
  | dead (a : Nat) (h : a < count) : At count .dead (a + 1) a none

theorem Phase.At.made_le {count made replied : Nat} {p : Phase}
    {pending : Option (Nat × Attempted)} (h : p.At count made replied pending) : made ≤ count := by
  cases h <;> omega

theorem Phase.At.replied_le {count made replied : Nat} {p : Phase}
    {pending : Option (Nat × Attempted)} (h : p.At count made replied pending) :
    replied ≤ count := by
  cases h <;> omega

section

variable {count a made replied : Nat} {pending : Option (Nat × Attempted)}

theorem Phase.At.of_ready (h : (Phase.ready a).At count made replied pending) :
    ∃ b < count, a = b + 1 ∧ made = b ∧ replied = b ∧ pending = none := by
  cases h
  exact ⟨_, ‹_›, rfl, rfl, rfl, rfl⟩

theorem Phase.At.of_sending (h : (Phase.sending a).At count made replied pending) :
    ∃ b < count, a = b + 1 ∧ made = b + 1 ∧ replied = b ∧ pending = none := by
  cases h
  exact ⟨_, ‹_›, rfl, rfl, rfl, rfl⟩

theorem Phase.At.of_keeping {r : Record} (h : (Phase.keeping a r).At count made replied pending) :
    ∃ b < count, a = b + 1 ∧ made = b + 1 ∧ replied = b + 1 ∧
      pending = some (b + 1, .stored r.id) := by
  cases h
  exact ⟨_, ‹_›, rfl, rfl, rfl, rfl⟩

theorem Phase.At.of_judged {what : Attempted}
    (h : (Phase.judged a what).At count made replied pending) :
    ∃ b < count, a = b + 1 ∧ made = b + 1 ∧ replied = b + 1 ∧ pending = some (b + 1, what) := by
  cases h
  exact ⟨_, ‹_›, rfl, rfl, rfl, rfl⟩

theorem Phase.At.of_published (h : (Phase.published a).At count made replied pending) :
    ∃ b < count, a = b + 1 ∧ made = b + 1 ∧ replied = b + 1 ∧ pending = none := by
  cases h
  exact ⟨_, ‹_›, rfl, rfl, rfl, rfl⟩

theorem Phase.At.of_pausing (ms : UInt64)
    (h : (Phase.pausing a ms).At count made replied pending) :
    ∃ b, b + 1 < count ∧ a = b + 1 ∧ made = b + 1 ∧ replied = b + 1 ∧ pending = none := by
  cases h
  exact ⟨_, ‹_›, rfl, rfl, rfl, rfl⟩

end

def uncountedIds : Option (Nat × Attempted) → List PacketId
  | some (_, .stored id) => [id]
  | _ => []

def uncountedFailures : Option (Nat × Attempted) → List Nat
  | some (a, .failed _) => [a]
  | _ => []

section

variable (a : Nat) (id : PacketId) (message : String)

@[simp] theorem uncountedIds_none : uncountedIds none = [] := rfl

@[simp] theorem uncountedFailures_none : uncountedFailures none = [] := rfl

@[simp] theorem uncountedFailures_stored : uncountedFailures (some (a, .stored id)) = [] := rfl

@[simp] theorem uncountedFailures_failed : uncountedFailures (some (a, .failed message)) = [a] :=
  rfl

end

/-- The account of a job with a number against a history. -/
structure Job.Account (n : Nat) (es : List Entry) (j : Job) (made replied : Nat)
    (pending : Option (Nat × Attempted)) : Prop where
  phase : j.phase.At j.count.toNat made replied pending
  sent : sentBy n es = (List.range' 1 made).map fun a => (a, j.request)
  ids : (storedBy n es).map (fun p => p.2.id) = j.progress.packetIds ++ uncountedIds pending
  attempts : ((storedBy n es).map Prod.fst ++
    (j.failures.map (fun f => f.attempt.toNat) ++ uncountedFailures pending)).Perm
      (List.range' 1 replied)
  origins : ∀ p ∈ storedBy n es,
    p.2.origin = .resend j.progress.source j.progress.job p.1.toUInt32
  order : ((storedBy n es).map Prod.fst).Pairwise (· < ·)
  unfinished : j.phase ≠ .finished → j.progress.result = none
  finished : j.phase = .finished → ∃ ms, j.progress.result = some (j.account ms)

theorem range'_concat (n : Nat) : List.range' 1 (n + 1) = List.range' 1 n ++ [n + 1] := by
  rw [List.range'_1_concat, Nat.add_comm 1 n]

theorem Job.account_launch (n : Nat) (es : List Entry) (hs : sentBy n es = [])
    (ht : storedBy n es = []) (id : JobId) (job : ResendJob) (hc : job.count ≠ 0)
    (request : OutboundRequest) (source : PacketId) :
    (Job.launch id job request source).Account n es 0 0 none where
  phase := by
    have : job.count.toNat ≠ 0 := fun h => hc (UInt32.toNat_inj.mp h)
    exact .ready 0 (by change 0 < job.count.toNat; omega)
  sent := by simp [hs]
  ids := by simp [ht, Job.launch, Progress.pending]
  attempts := by simp [ht, Job.launch]
  origins := by simp [ht]
  order := by simp [ht]
  unfinished := fun _ => rfl
  finished := by simp [Job.launch]

structure Job.Kept (j j' : Job) : Prop where
  count : j'.count = j.count
  request : j'.request = j.request
  job : j'.progress.job = j.progress.job
  source : j'.progress.source = j.progress.source

theorem Job.Kept.refl (j : Job) : j.Kept j := ⟨rfl, rfl, rfl, rfl⟩

theorem Job.Kept.trans {j j' j'' : Job} (h : j.Kept j') (h' : j'.Kept j'') : j.Kept j'' where
  count := h'.count.trans h.count
  request := h'.request.trans h.request
  job := h'.job.trans h.job
  source := h'.source.trans h.source

theorem Job.Move.kept {n : Nat} {s s' : Store} {j j' : Job} {es : List Entry}
    (h : Job.Move n s j s' j' es) : j.Kept j' := by
  cases h <;> constructor <;> rfl

namespace Job.Account

variable {n : Nat} {es : List Entry} {j : Job} {made replied : Nat}
  {pending : Option (Nat × Attempted)}

theorem extend (h : j.Account n es made replied pending) (es' : List Entry)
    (hs : sentBy n es' = []) (ht : storedBy n es' = []) :
    j.Account n (es ++ es') made replied pending where
  phase := h.phase
  sent := by rw [sentBy_append, hs, List.append_nil, h.sent]
  ids := by rw [storedBy_append, ht, List.append_nil, h.ids]
  attempts := by
    rw [storedBy_append, ht, List.append_nil]
    exact h.attempts
  origins := by
    rw [storedBy_append, ht, List.append_nil]
    exact h.origins
  order := by
    rw [storedBy_append, ht, List.append_nil]
    exact h.order
  unfinished := h.unfinished
  finished := h.finished

/-- A step inside an attempt: only the phase changes, and nothing is counted. -/
theorem rephase (h : j.Account n es made replied pending) (hp : j.phase ≠ .finished) (p : Phase)
    (hn : p ≠ .finished) (hat : p.At j.count.toNat made replied pending) :
    ({ j with phase := p } : Job).Account n es made replied pending where
  phase := hat
  sent := h.sent
  ids := h.ids
  attempts := h.attempts
  origins := h.origins
  order := h.order
  unfinished := fun _ => h.unfinished hp
  finished := fun hf => absurd hf hn

variable {a b : Nat}

theorem dispatch (h : j.Account n es b b none) (hp : j.phase = .ready (b + 1))
    (hb : b < j.count.toNat) :
    ({ j with phase := .sending (b + 1) } : Job).Account n (es ++ [.sent n (b + 1) j.request])
      (b + 1) b none := by
  have hs : sentBy n [.sent n (b + 1) j.request] = [(b + 1, j.request)] := by
    simp [sentBy, Entry.sent?]
  have ht : storedBy n [.sent n (b + 1) j.request] = [] := rfl
  refine ⟨.sending b hb, ?_, ?_, ?_, ?_, ?_, ?_, ?_⟩
  · rw [sentBy_append, hs, h.sent, range'_concat, List.map_append]
    rfl
  · rw [storedBy_append, ht, List.append_nil]
    exact h.ids
  · rw [storedBy_append, ht, List.append_nil]
    exact h.attempts
  · rw [storedBy_append, ht, List.append_nil]
    exact h.origins
  · rw [storedBy_append, ht, List.append_nil]
    exact h.order
  · exact fun _ => h.unfinished (by simp [hp])
  · exact fun hf => by cases hf

theorem fail (h : j.Account n es (b + 1) b none) (hp : j.phase = .sending (b + 1))
    (hb : b < j.count.toNat) (message : String) (es' : List Entry) (hs : sentBy n es' = [])
    (ht : storedBy n es' = []) :
    (j.judge (b + 1) (.failed message)).Account n (es ++ es') (b + 1) (b + 1)
      (some (b + 1, .failed message)) := by
  have hx := h.extend es' hs ht
  refine ⟨.judged b hb _, hx.sent, hx.ids, ?_, hx.origins, hx.order, ?_, ?_⟩
  · have ha := hx.attempts.append_right [b + 1]
    rw [range'_concat]
    simpa [Job.judge] using ha
  · exact fun _ => h.unfinished (by simp [hp])
  · exact fun hf => by cases hf

theorem keep (h : j.Account n es (b + 1) b none) (hp : j.phase = .sending (b + 1))
    (hb : b < j.count.toNat) (response : Response) (r : Record)
    (hr : r.origin = .resend j.progress.source j.progress.job (b + 1).toUInt32) :
    ({ j with phase := .keeping (b + 1) r } : Job).Account n
      (es ++ [.replied n (b + 1) (.delivery (.delivered response)) (some r)]) (b + 1) (b + 1)
      (some (b + 1, .stored r.id)) := by
  have hs : sentBy n [.replied n (b + 1) (.delivery (.delivered response)) (some r)] = [] := rfl
  have ht : storedBy n [.replied n (b + 1) (.delivery (.delivered response)) (some r)] =
      [(b + 1, r)] := by
    simp [storedBy, Entry.stored?]
  refine ⟨.keeping b hb r, ?_, ?_, ?_, ?_, ?_, ?_, ?_⟩
  · rw [sentBy_append, hs, List.append_nil]
    exact h.sent
  · have hi := h.ids
    rw [uncountedIds_none, List.append_nil] at hi
    rw [storedBy_append, ht, List.map_append, hi]
    rfl
  · have ha := h.attempts
    rw [uncountedFailures_none, List.append_nil] at ha
    rw [storedBy_append, ht, List.map_append, range'_concat, uncountedFailures_stored,
      List.append_nil, List.append_assoc]
    refine List.Perm.trans ?_ (ha.append_right [b + 1])
    rw [List.append_assoc]
    exact List.perm_append_comm.append_left _
  · intro p hp
    rw [storedBy_append, ht, List.mem_append, List.mem_singleton] at hp
    rcases hp with hp | rfl
    · exact h.origins p hp
    · exact hr
  · rw [storedBy_append, ht, List.map_append, List.pairwise_append]
    refine ⟨h.order, by simp, ?_⟩
    intro x hx y hy
    obtain rfl := List.mem_singleton.mp hy
    have hm := h.attempts.mem_iff.mp (List.mem_append_left _ hx)
    have := List.mem_range'_1.mp hm
    change x < b + 1
    omega
  · exact fun _ => h.unfinished (by simp [hp])
  · exact fun hf => by cases hf

theorem publish {what : Attempted} (h : j.Account n es (b + 1) (b + 1) (some (b + 1, what)))
    (hp : j.phase = .judged (b + 1) what) (hb : b < j.count.toNat) :
    ({ j.tally (b + 1) what with phase := .published (b + 1) } : Job).Account n es (b + 1) (b + 1)
      none := by
  have hcount := j.count.toNat_lt
  have hu : (b + 1).toUInt32.toNat = b + 1 :=
    UInt32.toNat_ofNat_of_lt (by change _ < 0x100000000; omega)
  refine ⟨.published b hb, h.sent, ?_, ?_, h.origins, h.order, ?_, ?_⟩
  · cases what with
    | stored id =>
      rw [h.ids]
      exact (List.append_nil _).symm
    | failed message =>
      rw [h.ids]
      rfl
  · have ha := h.attempts
    cases what with
    | stored id => exact ha
    | failed message =>
      rw [uncountedFailures_failed] at ha
      have hf : (j.tally (b + 1) (.failed message)).failures =
          j.failures ++ [⟨(b + 1).toUInt32, message⟩] := rfl
      rw [uncountedFailures_none, List.append_nil, hf, List.map_append, List.map_singleton, hu]
      exact ha
  · exact fun _ => h.unfinished (by simp [hp])
  · exact fun hf => by cases hf

theorem finish (h : j.Account n es (b + 1) (b + 1) none) (hb : b < j.count.toNat)
    (hle : ¬ b + 1 < j.count.toNat) (elapsedMs : UInt64) :
    (j.finish elapsedMs).Account n es (b + 1) (b + 1) none := by
  have hc : b + 1 = j.count.toNat := by omega
  refine ⟨?_, h.sent, h.ids, h.attempts, h.origins, h.order, ?_, ?_⟩
  · rw [hc]
    exact .finished
  · exact fun hf => absurd rfl hf
  · exact fun _ => ⟨elapsedMs, rfl⟩

end Job.Account

/-- **Every move keeps the account.** -/
theorem Job.Move.account {n : Nat} {s s' : Store} {j j' : Job} {es es' : List Entry}
    {made replied : Nat} {pending : Option (Nat × Attempted)}
    (hm : Job.Move n s j s' j' es') (h : j.Account n es made replied pending) :
    ∃ made' replied' pending', j'.Account n (es ++ es') made' replied' pending' := by
  have hat := h.phase
  cases hm with
  | dispatch a hp =>
    obtain ⟨b, hb, rfl, rfl, rfl, rfl⟩ := (hp ▸ hat).of_ready
    exact ⟨_, _, _, h.dispatch hp hb⟩
  | fail a hp message =>
    obtain ⟨b, hb, rfl, rfl, rfl, rfl⟩ := (hp ▸ hat).of_sending
    exact ⟨_, _, _, h.fail hp hb message _ rfl rfl⟩
  | drop a hp response e =>
    obtain ⟨b, hb, rfl, rfl, rfl, rfl⟩ := (hp ▸ hat).of_sending
    exact ⟨_, _, _, h.fail hp hb _ _ rfl rfl⟩
  | keep a hp response now r s' hi =>
    obtain ⟨b, hb, rfl, rfl, rfl, rfl⟩ := (hp ▸ hat).of_sending
    have hd := Store.insert_draft s _ r s' hi
    exact ⟨_, _, _, h.keep hp hb response r (congrArg Draft.origin hd)⟩
  | die a hp =>
    obtain ⟨b, hb, rfl, rfl, rfl, rfl⟩ := (hp ▸ hat).of_sending
    exact ⟨_, _, _, (h.extend _ rfl rfl).rephase (by simp [hp]) .dead (by simp) (.dead _ hb)⟩
  | mirror a r hp =>
    obtain ⟨b, hb, rfl, rfl, rfl, rfl⟩ := (hp ▸ hat).of_keeping
    exact ⟨_, _, _, (h.extend _ rfl rfl).rephase (by simp [hp]) _ (by simp) (.judged _ hb _)⟩
  | publish a what hp =>
    obtain ⟨b, hb, rfl, rfl, rfl, rfl⟩ := (hp ▸ hat).of_judged
    exact ⟨_, _, _, (h.publish hp hb).extend _ rfl rfl⟩
  | next a hp hlt =>
    obtain ⟨b, hb, rfl, rfl, rfl, rfl⟩ := (hp ▸ hat).of_published
    exact ⟨_, _, _, (h.extend _ rfl rfl).rephase (by simp [hp]) _ (by simp) (.ready _ hlt)⟩
  | pause a hp hlt =>
    obtain ⟨b, hb, rfl, rfl, rfl, rfl⟩ := (hp ▸ hat).of_published
    exact ⟨_, _, _, (h.extend _ rfl rfl).rephase (by simp [hp]) _ (by simp) (.pausing _ _ hlt)⟩
  | finish a hp hle elapsedMs =>
    obtain ⟨b, hb, rfl, rfl, rfl, rfl⟩ := (hp ▸ hat).of_published
    exact ⟨_, _, _, (h.finish hb hle elapsedMs).extend _ rfl rfl⟩
  | wake a ms hp =>
    obtain ⟨b, hb, rfl, rfl, rfl, rfl⟩ := (hp ▸ hat).of_pausing
    exact ⟨_, _, _, (h.extend _ rfl rfl).rephase (by simp [hp]) _ (by simp) (.ready _ hb)⟩

/-- What a result says of a job with a number, against its history. -/
structure ResendResult.Balanced (r : ResendResult) (n : Nat) (es : List Entry) (count : UInt32) :
    Prop where
  sum : r.sentCount.toNat + r.failedCount.toNat = count.toNat
  success : r.success = true ↔ r.failedCount = 0
  ids : r.packetIds.length = r.sentCount.toNat
  failures : r.failures.length = r.failedCount.toNat
  attempts : ((storedBy n es).map Prod.fst ++ r.failures.map fun f => f.attempt.toNat).Perm
    (List.range' 1 count.toNat)
  packets : r.packetIds = (storedBy n es).map fun p => p.2.id

theorem Job.Account.of_result {n : Nat} {es : List Entry} {j : Job} {made replied : Nat}
    {pending : Option (Nat × Attempted)} (h : j.Account n es made replied pending)
    (r : ResendResult) (hr : j.progress.result = some r) :
    made = j.count.toNat ∧ r.Balanced n es j.count := by
  have hp : j.phase = .finished := by
    by_contra hp
    rw [h.unfinished hp] at hr
    cases hr
  obtain ⟨ms, hms⟩ := h.finished hp
  rw [hms] at hr
  cases hr
  have hat := h.phase
  rw [hp] at hat
  cases hat
  have hids := h.ids
  have hatt := h.attempts
  rw [uncountedIds_none, List.append_nil] at hids
  rw [uncountedFailures_none, List.append_nil] at hatt
  have hcount := j.count.toNat_lt
  have hlen := hatt.length_eq
  have hidlen := congrArg List.length hids
  rw [List.length_append, List.length_map, List.length_map, List.length_range'] at hlen
  rw [List.length_map] at hidlen
  have hs : j.progress.packetIds.length.toUInt32.toNat = j.progress.packetIds.length :=
    UInt32.toNat_ofNat_of_lt (by change _ < 0x100000000; omega)
  have hf : j.failures.length.toUInt32.toNat = j.failures.length :=
    UInt32.toNat_ofNat_of_lt (by change _ < 0x100000000; omega)
  refine ⟨rfl, ?_, ?_, hs.symm, hf.symm, hatt, hids.symm⟩
  · change j.progress.packetIds.length.toUInt32.toNat + j.failures.length.toUInt32.toNat = _
    omega
  · change j.failures.isEmpty = true ↔ j.failures.length.toUInt32 = 0
    rw [← UInt32.toNat_inj, hf, List.isEmpty_iff, ← List.length_eq_zero_iff]
    rfl

end PacketReplay
