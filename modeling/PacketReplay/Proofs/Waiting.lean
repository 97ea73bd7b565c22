import PacketReplay.Proofs.Runners

/-!
# Waiting for a job

Everybody who waits for the result of a job looks at one channel: the progress that the runner has
published last, and whether the runner is gone. Waiting on a channel is not defined here; of it
only what is documented is used. What a waiter can be told is decided by the channel as it is last,
and once it is decided it stays as it is. So nobody is told anything else.
-/

set_option autoImplicit false

namespace PacketReplay

structure Channel where
  value : Progress
  closed : Bool

/-- What it comes to to wait for a value that meets a condition, by how the channel was from the
first moment of waiting to the last: a value, an error, or nothing yet. -/
abbrev WaitFor : Type :=
  (Progress → Bool) → List Channel → Option (Except Unit Progress)

/-- What is documented of waiting: a value that is returned was there and met the condition; an error
is returned only when the channel is closed and its value, the last, does not meet the condition; and
as long as nothing is returned the channel is open and its value does not meet the condition. -/
structure WaitFor.Documented (f : WaitFor) : Prop where
  value : ∀ meets moments p, f meets moments = some (.ok p) →
    meets p = true ∧ ∃ m ∈ moments, m.value = p
  closed : ∀ meets moments, f meets moments = some (.error ()) →
    ∃ m ∈ moments, m.closed = true ∧ meets m.value = false
  pending : ∀ meets moments, f meets moments = none →
    ∀ m, moments.getLast? = some m → m.closed = false ∧ meets m.value = false

def WaitFor.result (f : WaitFor) (id : JobId) (moments : List Channel) :
    Option (Except PacketError ResendResult) :=
  match f (fun p => p.result.isSome) moments with
  | none => none
  | some (.error ()) => some (.error (.jobAborted id))
  | some (.ok p) =>
    match p.result with
    | some r => some (.ok r)
    | none => some (.error (.jobAborted id))

def Channel.verdict (c : Channel) (id : JobId) : Option (Except PacketError ResendResult) :=
  match c.value.result with
  | some r => some (.ok r)
  | none => if c.closed then some (.error (.jobAborted id)) else none

section

variable (c : Channel) (id : JobId)

theorem Channel.verdict_some (r : ResendResult) (h : c.value.result = some r) :
    c.verdict id = some (.ok r) := by
  rw [verdict, h]

theorem Channel.verdict_closed (h : c.value.result = none) (hc : c.closed = true) :
    c.verdict id = some (.error (.jobAborted id)) := by
  rw [verdict, h]
  exact if_pos hc

theorem Channel.verdict_open (h : c.value.result = none) (hc : c.closed = false) :
    c.verdict id = none := by
  rw [verdict, h]
  exact if_neg (by simp [hc])

end

/-- **A waiter is told what the last moment tells**, if what a moment has told is told ever after. -/
theorem WaitFor.Documented.result_eq {f : WaitFor} (hf : f.Documented) (id : JobId)
    (moments : List Channel) (last : Channel) (hlast : moments.getLast? = some last)
    (hstay : ∀ m ∈ moments, ∀ v, m.verdict id = some v → last.verdict id = some v) :
    f.result id moments = last.verdict id := by
  rw [WaitFor.result]
  split
  · rename_i h
    obtain ⟨hopen, hnone⟩ := hf.pending _ _ h last hlast
    exact (last.verdict_open id (by simpa using hnone) hopen).symm
  · rename_i h
    obtain ⟨m, hm, hclosed, hnone⟩ := hf.closed _ _ h
    exact (hstay m hm _ (m.verdict_closed id (by simpa using hnone) hclosed)).symm
  · rename_i p h
    obtain ⟨hsome, m, hm, rfl⟩ := hf.value _ _ _ h
    obtain ⟨r, hr⟩ := Option.isSome_iff_exists.mp hsome
    rw [hr]
    exact (hstay m hm _ (m.verdict_some id r hr)).symm

namespace Scene

/-- The channel of a job: a task that has died on an attempt is gone as well. -/
def channel? (s : Scene) (n : Nat) : Option Channel :=
  s.jobs[n]?.map fun j => ⟨j.progress, s.gone n || j.phase == .dead⟩

def channels (ids : Nat → JobId) (n : Nat) : Scene → List Happening → List Channel
  | s, [] => (s.channel? n).toList
  | s, h :: hs => (s.channel? n).toList ++ channels ids n (s.step ids h) hs

variable (ids : Nat → JobId) (s : Scene)

def verdict (n : Nat) : Option (Except PacketError ResendResult) :=
  (s.channel? n).bind fun c => c.verdict (ids n)

def IsGone (n : Nat) : Prop :=
  ∃ c, s.channel? n = some c ∧ c.closed = true

/-- The result of a job has been published in the course of a run. -/
def Published (hs : List Happening) (n : Nat) (r : ResendResult) : Prop :=
  ∃ past, past <+: hs ∧ ∃ j, (s.run ids past).jobs[n]? = some j ∧ j.progress.result = some r

theorem verdict_ok_iff (n : Nat) (r : ResendResult) : s.verdict ids n = some (.ok r) ↔
    ∃ j, s.jobs[n]? = some j ∧ j.progress.result = some r := by
  unfold verdict channel?
  cases s.jobs[n]? with
  | none => simp
  | some j =>
    rw [Option.map_some, Option.bind_some]
    unfold Channel.verdict
    cases hr : j.progress.result with
    | some q => simp [hr]
    | none => simp [hr]

theorem verdict_error_iff (n : Nat) (e : PacketError) : s.verdict ids n = some (.error e) ↔
    e = .jobAborted (ids n) ∧ s.IsGone n ∧ ∀ r, s.verdict ids n ≠ some (.ok r) := by
  unfold verdict IsGone channel?
  cases s.jobs[n]? with
  | none => simp
  | some j =>
    simp only [Option.map_some, Option.bind_some, Option.some.injEq, exists_eq_left']
    unfold Channel.verdict
    cases hr : j.progress.result with
    | some q => simp
    | none =>
      by_cases hclosed : (s.gone n || j.phase == .dead) = true
      · simp [hclosed, eq_comm]
      · simp [hclosed]

variable {ids s}

theorem Sound.isOver_of_verdict (h : s.Sound ids) (n : Nat) (j : Job) (hj : s.jobs[n]? = some j)
    (v : Except PacketError ResendResult) (hv : s.verdict ids n = some v) : j.isOver = true := by
  cases v with
  | ok r =>
    obtain ⟨i, hi, hr⟩ := (s.verdict_ok_iff ids n r).mp hv
    rw [hj] at hi
    cases hi
    have hp := (h.jobs n j hj).result.mp (Option.isSome_of_eq_some hr)
    simp [Job.isOver, hp]
  | error e =>
    obtain ⟨-, ⟨c, hc, hclosed⟩, -⟩ := (s.verdict_error_iff ids n e).mp hv
    rw [channel?, hj] at hc
    cases hc
    rcases (Bool.or_eq_true _ _).mp hclosed with hgone | hdead
    · obtain ⟨i, hi, hover⟩ := h.gone n hgone
      rw [hj] at hi
      cases hi
      exact hover
    · exact (Bool.or_eq_true _ _).mpr (.inr hdead)

/-- **What is told once is told ever after.** -/
theorem Sound.step_verdict (h : s.Sound ids) (n : Nat) (v : Except PacketError ResendResult)
    (hv : s.verdict ids n = some v) (a : Happening) : (s.step ids a).verdict ids n = some v := by
  obtain ⟨c, hc, hcv⟩ := Option.bind_eq_some_iff.mp hv
  obtain ⟨j, hj, rfl⟩ := Option.map_eq_some_iff.mp hc
  have hnext := s.step_over ids n j hj (h.isOver_of_verdict n j hj v hv) a
  rw [verdict, channel?, hnext, Option.map_some, Option.bind_some]
  cases hr : j.progress.result with
  | some r =>
    rw [Channel.verdict_some _ _ r hr] at hcv ⊢
    exact hcv
  | none =>
    by_cases hclosed : (s.gone n || j.phase == .dead) = true
    · rw [Channel.verdict_closed _ _ hr hclosed] at hcv
      rw [Channel.verdict_closed _ _ hr, hcv]
      refine (Bool.or_eq_true _ _).mpr (((Bool.or_eq_true _ _).mp hclosed).imp_left fun hgone => ?_)
      exact s.step_gone ids n hgone a
    · rw [Channel.verdict_open _ _ hr (by simpa using hclosed)] at hcv
      cases hcv

theorem Sound.run_verdict (h : s.Sound ids) (n : Nat) (v : Except PacketError ResendResult)
    (hv : s.verdict ids n = some v) (hs : List Happening) :
    (s.run ids hs).verdict ids n = some v := by
  induction hs generalizing s with
  | nil => exact hv
  | cons a hs ih => exact ih (h.step a) (h.step_verdict n v hv a)

theorem Sound.channels (h : s.Sound ids) (n : Nat) (hn : n < s.jobs.size) (hs : List Happening) :
    ∃ last, (Scene.channels ids n s hs).getLast? = some last ∧
      last.verdict (ids n) = (s.run ids hs).verdict ids n ∧
      ∀ m ∈ Scene.channels ids n s hs, ∀ v, m.verdict (ids n) = some v →
        (s.run ids hs).verdict ids n = some v := by
  have hchannel : s.channel? n =
      some ⟨s.jobs[n].progress, s.gone n || s.jobs[n].phase == .dead⟩ := by
    rw [channel?, Array.getElem?_eq_getElem hn]
    rfl
  have hfirst : ∀ m ∈ (s.channel? n).toList, m.verdict (ids n) = s.verdict ids n := by
    intro m hm
    rw [verdict, Option.mem_toList.mp hm, Option.bind_some]
  induction hs generalizing s with
  | nil =>
    refine ⟨_, by rw [Scene.channels, hchannel]; rfl, hfirst _ (by simp [hchannel]), ?_⟩
    intro m hm v hv
    rwa [hfirst m hm] at hv
  | cons a hs ih =>
    have hnext := s.step_size ids n hn a
    obtain ⟨last, hlast, hsame, hall⟩ := ih (h.step a) hnext
      (by rw [channel?, Array.getElem?_eq_getElem hnext]; rfl)
      (fun m hm => by rw [verdict, Option.mem_toList.mp hm, Option.bind_some])
    refine ⟨last, ?_, hsame, ?_⟩
    · rw [Scene.channels, List.getLast?_append, hlast]
      rfl
    · intro m hm v hv
      rcases List.mem_append.mp hm with hm | hm
      · rw [hfirst m hm] at hv
        exact h.run_verdict n v hv (a :: hs)
      · exact hall m hm v hv

/-- **A wait comes to what the scene at its end tells.** -/
theorem Sound.wait_eq (h : s.Sound ids) (n : Nat) (hn : n < s.jobs.size) {f : WaitFor}
    (hf : f.Documented) (hs : List Happening) :
    f.result (ids n) (Scene.channels ids n s hs) = (s.run ids hs).verdict ids n := by
  obtain ⟨last, hlast, hsame, hall⟩ := h.channels n hn hs
  rw [← hsame]
  refine hf.result_eq (ids n) _ last hlast fun m hm v hv => ?_
  rw [hsame]
  exact hall m hm v hv

theorem Sound.await_eq (h : s.Sound ids) (n : Nat) :
    s.world.coordinator.await n = s.verdict ids n := by
  cases hj : s.jobs[n]? with
  | none =>
    have hjob : s.world.coordinator.jobs[n]? = none := hj
    simp only [Coordinator.await, hjob, verdict, channel?, hj, Option.map_none, Option.bind_none]
  | some j =>
    have hjob : s.world.coordinator.jobs[n]? = some j := hj
    simp only [Coordinator.await, hjob, verdict, channel?, hj, Option.map_some, Option.bind_some]
    cases hr : j.progress.result with
    | some r =>
      have hawait : j.await = .result r := by
        unfold Job.await
        rw [hr]
      rw [Channel.verdict_some _ _ r hr]
      simp only [hawait]
    | none =>
      have hawait : j.await = if j.isOver then .aborted else .pending := by
        unfold Job.await
        rw [hr]
      have hnot : j.phase ≠ .finished := by
        rw [Ne, ← (h.jobs n j hj).result, hr]
        exact Bool.false_ne_true
      by_cases hclosed : (s.gone n || j.phase == .dead) = true
      · have hv : s.verdict ids n = some (.error (.jobAborted (ids n))) := by
          rw [verdict, channel?, hj]
          exact Channel.verdict_closed _ _ hr hclosed
        rw [Channel.verdict_closed _ _ hr hclosed, ← (h.jobs n j hj).id]
        simp only [hawait, if_pos (h.isOver_of_verdict n j hj _ hv)]
      · have hover : ¬ j.isOver = true := by
          rw [Bool.or_eq_true, not_or] at hclosed
          rw [Job.isOver, Bool.or_eq_true, not_or]
          exact ⟨by simpa using hnot, hclosed.2⟩
        rw [Channel.verdict_open _ _ hr (by simpa using hclosed)]
        simp only [hawait, if_neg hover]

theorem Sound.published_iff (h : s.Sound ids) (hs : List Happening) (n : Nat) (r : ResendResult) :
    s.Published ids hs n r ↔ (s.run ids hs).verdict ids n = some (.ok r) := by
  constructor
  · rintro ⟨past, ⟨rest, rfl⟩, hj⟩
    rw [run_append]
    exact (h.run past).run_verdict n _ (((s.run ids past).verdict_ok_iff ids n r).mpr hj) rest
  · intro hv
    exact ⟨hs, List.prefix_refl hs, ((s.run ids hs).verdict_ok_iff ids n r).mp hv⟩

end Scene

theorem World.step_sync (ids : Nat → JobId) (w : World) (key n : Nat)
    (hcall : w.calls key = some (.launched .sync n)) : (w.step ids (.advance key)).1 =
      (w.coordinator.await n).map fun a => .resend (a.map .completed) := by
  have hstep : (w.step ids (.advance key)).1 =
      (w.service.resume ids (.launched .sync n)).answer := by simp only [World.step, hcall]
  rw [hstep]
  change (Service.resume ids w.service (.launched .sync n)).answer =
    (w.service.coordinator.await n).map _
  simp only [Service.resume]
  cases w.service.coordinator.await n with
  | none => rfl
  | some a => cases a <;> rfl

/-- **All who wait for a job learn the same.** Let a service start without jobs, and let anything
happen, runners going at any moment included. Whoever waits for a job, from any moment after its
launch and for as long as they like, is told a result if and only if it has been published, and that
the job was aborted if and only if the runner has gone and no result has been published; none is
published after that. A job has one result at most, and no two who wait are told different things.
The call of a resend that is waited for is told what those are told who wait with the handle of its
job. -/
theorem waiters_learn_the_same (ids : Nat → JobId) (service : Service)
    (hjobs : service.coordinator.jobs = #[]) (waitFor : Nat → WaitFor)
    (hdoc : ∀ i, (waitFor i).Documented) (hs : List Happening) (n : Nat) :
    let s := Scene.start service
    -- What the waiter `i` has been told who came after some events and has waited for others.
    let told := fun i before during =>
      (waitFor i).result (ids n) (Scene.channels ids n (s.run ids before) during)
    let Waits := fun before during : List Happening =>
      before ++ during <+: hs ∧ n < (s.run ids before).jobs.size
    (∀ i before during, Waits before during →
      (∀ r, told i before during = some (.ok r) ↔ s.Published ids (before ++ during) n r) ∧
      (∀ e, told i before during = some (.error e) ↔ e = .jobAborted (ids n) ∧
        (s.run ids (before ++ during)).IsGone n ∧ ∀ r, ¬ s.Published ids (before ++ during) n r) ∧
      ∀ e, told i before during = some (.error e) → ∀ r, ¬ s.Published ids hs n r) ∧
    (∀ r r', s.Published ids hs n r → s.Published ids hs n r' → r = r') ∧
    (∀ i before during i' before' during', Waits before during → Waits before' during' →
      ∀ a a', told i before during = some a → told i' before' during' = some a' → a = a') ∧
    ∀ past key job inMemory source edited, let u := (s.run ids past).world
      u.calls key = some (.finding job inMemory) → job.mode = .sync →
      u.store.look inMemory job.source true = some (.ok source) →
      applyRules source job.rules job.policy = .ok edited → n = u.coordinator.jobs.size →
      ∀ during, let w := (s.run ids (past ++ [.event (.advance key)] ++ during)).world
      w.calls key = some (.launched .sync n) →
      ∀ i, (w.step ids (.advance key)).1 =
        (told i (past ++ [.event (.advance key)]) during).map fun a =>
          .resend (a.map .completed) := by
  intro s told Waits
  have hs₀ : s.Sound ids := Scene.Sound.start service hjobs
  have htold : ∀ i before during, n < (s.run ids before).jobs.size →
      told i before during = (s.run ids (before ++ during)).verdict ids n := by
    intro i before during hn
    rw [Scene.run_append]
    exact (hs₀.run before).wait_eq n hn (hdoc i) during
  have hlater : ∀ before during : List Happening, before ++ during <+: hs → ∀ v,
      (s.run ids (before ++ during)).verdict ids n = some v →
        (s.run ids hs).verdict ids n = some v := by
    rintro before during ⟨rest, rfl⟩ v hv
    rw [Scene.run_append]
    exact (hs₀.run _).run_verdict n v hv rest
  refine ⟨?_, ?_, ?_, ?_⟩
  · rintro i before during ⟨hwithin, hn⟩
    rw [htold i before during hn]
    refine ⟨fun r => (hs₀.published_iff _ n r).symm, fun e => ?_, fun e he r hr => ?_⟩
    · rw [Scene.verdict_error_iff]
      simp only [hs₀.published_iff, ne_eq]
    · rw [hs₀.published_iff, hlater before during hwithin _ he] at hr
      cases hr
  · intro r r' hr hr'
    rw [hs₀.published_iff] at hr hr'
    rw [hr] at hr'
    cases hr'
    rfl
  · rintro i before during i' before' during' ⟨hwithin, hn⟩ ⟨hwithin', hn'⟩ a a' ha ha'
    rw [htold _ _ _ hn] at ha
    rw [htold _ _ _ hn'] at ha'
    have hend := hlater before during hwithin a ha
    rw [hlater before' during' hwithin' a' ha'] at hend
    exact (Option.some.inj hend).symm
  · intro past key job inMemory source edited u hcall hmode hlook hrules hsize during w hstands i
    have hn : n < (s.run ids (past ++ [.event (.advance key)])).jobs.size := by
      rw [Scene.run_append]
      change n < (u.step ids (.advance key)).2.coordinator.jobs.size
      rw [World.step_launch ids u key job inMemory source edited hcall hlook hrules, hsize]
      change _ < (u.coordinator.jobs.push _).size
      rw [Array.size_push]
      exact Nat.lt_succ_self _
    rw [w.step_sync ids key n hstands, htold i _ during hn]
    exact congrArg (Option.map _) ((hs₀.run _).await_eq n)

/-- Waiting that returns at the first moment at which it can. -/
def WaitFor.prompt : WaitFor := fun meets moments =>
  moments.findSome? fun m =>
    if meets m.value then some (.ok m.value) else if m.closed then some (.error ()) else none

theorem WaitFor.prompt_documented : WaitFor.prompt.Documented where
  value := by
    intro meets moments p h
    obtain ⟨m, hm, hreturns⟩ := List.exists_of_findSome?_eq_some h
    split at hreturns
    · rename_i hmeets
      cases hreturns
      exact ⟨hmeets, m, hm, rfl⟩
    · split at hreturns <;> cases hreturns
  closed := by
    intro meets moments h
    obtain ⟨m, hm, hreturns⟩ := List.exists_of_findSome?_eq_some h
    split at hreturns
    · cases hreturns
    · rename_i hmeets
      split at hreturns
      · rename_i hclosed
        exact ⟨m, hm, hclosed, by simpa using hmeets⟩
      · cases hreturns
  pending := by
    intro meets moments h m hlast
    have hnone := List.findSome?_eq_none_iff.mp h m (List.mem_of_getLast? hlast)
    split at hnone
    · cases hnone
    · rename_i hmeets
      split at hnone
      · cases hnone
      · rename_i hclosed
        exact ⟨by simpa using hclosed, by simpa using hmeets⟩

def Service.single : Service :=
  .over (Store.run (fun _ => 1) [.append (.bare "/") none]).2

def Happening.launch : List Happening :=
  [.event (.ask 0 (.execute { ResendJob.once 1 with count := 2 })), .event (.advance 0)]

def Happening.twice : List Happening :=
  Event.twice.map .event ++ [.drop 0]

def Happening.lost : List Happening :=
  Happening.launch ++ [.drop 0]

/-- One waiter comes at the launch of a job, another when its runner is gone. A third waits for a job
whose runner has gone at once. -/
theorem waiters_learn_the_same_twice :
    let told := fun before during => WaitFor.prompt.result (strokes 0)
      (Scene.channels strokes 0 ((Scene.start .single).run strokes before) during)
    let r : ResendResult := ⟨"", 1, false, 1, 1, [2], [⟨1, "lost"⟩], 5⟩
    told Happening.launch Happening.twice = some (.ok r) ∧
      told (Happening.launch ++ Happening.twice) [] = some (.ok r) ∧
      told Happening.lost [] = some (.error (.jobAborted (strokes 0))) := by
  intro told r
  have hsound : (Scene.start .single).Sound strokes := Scene.Sound.start .single rfl
  have hlearn := fun hs => (waiters_learn_the_same strokes .single rfl (fun _ => WaitFor.prompt)
    (fun _ => WaitFor.prompt_documented) hs 0).1
  have hlaunched : 0 < ((Scene.start .single).run strokes Happening.launch).jobs.size := by
    decide +kernel
  have hended :
      0 < ((Scene.start .single).run strokes (Happening.launch ++ Happening.twice)).jobs.size := by
    decide +kernel
  have hlost : 0 < ((Scene.start .single).run strokes Happening.lost).jobs.size := by
    decide +kernel
  have hpublished :
      (Scene.start .single).Published strokes (Happening.launch ++ Happening.twice) 0 r := by
    rw [hsound.published_iff]
    decide +kernel +revert
  have haborted : ((Scene.start .single).run strokes Happening.lost).verdict strokes 0 =
      some (.error (.jobAborted (strokes 0))) := by decide +kernel
  rw [Scene.verdict_error_iff] at haborted
  simp only [ne_eq, ← hsound.published_iff] at haborted
  refine ⟨?_, ?_, ?_⟩
  · have hfirst := (hlearn _ 0 Happening.launch Happening.twice
      ⟨List.prefix_refl _, hlaunched⟩).1 r
    exact hfirst.mpr hpublished
  · have hlate := (hlearn _ 1 (Happening.launch ++ Happening.twice) []
      ⟨List.prefix_refl _, hended⟩).1 r
    rw [List.append_nil] at hlate
    exact hlate.mpr hpublished
  · have hgone := (hlearn _ 2 Happening.lost [] ⟨List.prefix_refl _, hlost⟩).2.1
    rw [List.append_nil] at hgone
    exact (hgone (.jobAborted (strokes 0))).mpr ⟨rfl, haborted.2⟩

end PacketReplay
