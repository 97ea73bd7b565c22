import PacketReplay.Proofs.Accounting

set_option autoImplicit false

namespace PacketReplay

def JobState.rank : JobState → Nat
  | pending => 0
  | running => 1
  | detached => 2
  | completed => 3

structure Progress.Precedes (p q : Progress) : Prop where
  job : q.job = p.job
  source : q.source = p.source
  count : q.count = p.count
  state : p.state.rank ≤ q.state.rank
  sent : p.sentCount ≤ q.sentCount
  failed : p.failedCount ≤ q.failedCount
  ids : p.packetIds <+: q.packetIds
  last : p.state = .completed → q = p

structure Progress.Coherent (p : Progress) : Prop where
  ids : p.packetIds.length = p.sentCount.toNat
  within : p.sentCount.toNat + p.failedCount.toNat ≤ p.count.toNat
  result : p.result.isSome ↔ p.state = .completed
  final : ∀ r, p.result = some r →
    p.sentCount.toNat + p.failedCount.toNat = p.count.toNat ∧ r.job = p.job ∧
      r.source = p.source ∧ r.sentCount = p.sentCount ∧ r.failedCount = p.failedCount ∧
      r.packetIds = p.packetIds

namespace Progress.Precedes

theorem refl (p : Progress) : p.Precedes p :=
  ⟨rfl, rfl, rfl, le_refl _, UInt32.le_refl _, UInt32.le_refl _, List.prefix_refl _, fun _ => rfl⟩

theorem trans {p q r : Progress} (h : p.Precedes q) (h' : q.Precedes r) : p.Precedes r where
  job := h'.job.trans h.job
  source := h'.source.trans h.source
  count := h'.count.trans h.count
  state := h.state.trans h'.state
  sent := UInt32.le_trans h.sent h'.sent
  failed := UInt32.le_trans h.failed h'.failed
  ids := h.ids.trans h'.ids
  last := by
    intro hp
    have hq : q = p := h.last hp
    rw [← hq] at hp ⊢
    exact h'.last hp

theorem restate (p : Progress) (s : JobState) (hs : p.state.rank ≤ s.rank)
    (hp : p.state ≠ .completed) (result : Option ResendResult) :
    p.Precedes { p with state := s, result := result } :=
  ⟨rfl, rfl, rfl, hs, UInt32.le_refl _, UInt32.le_refl _, List.prefix_refl _,
    fun h => absurd h hp⟩

end Progress.Precedes

theorem Job.openingStates_pairwise (mode : Mode) :
    (Job.openingStates mode).Pairwise fun s t => s.rank ≤ t.rank ∧ s ≠ .completed := by
  cases mode <;> decide

theorem Job.completed_not_opening (mode : Mode) : .completed ∉ Job.openingStates mode := by
  cases mode <;> decide

section

variable (id : JobId) (job : ResendJob) (source : PacketId)

theorem Job.openings_coherent : ∀ p ∈ Job.openings id job source, p.Coherent := by
  intro p hp
  obtain ⟨s, hs, rfl⟩ := List.mem_map.mp hp
  have hne : s ≠ .completed := by
    rintro rfl
    exact Job.completed_not_opening job.mode hs
  refine ⟨rfl, Nat.zero_le _, ?_, ?_⟩
  · exact ⟨fun h => absurd h (by simp [Progress.pending]), fun h => absurd h hne⟩
  · intro r hr
    cases hr

theorem Job.openings_pairwise : (Job.openings id job source).Pairwise Progress.Precedes := by
  rw [Job.openings, List.pairwise_map]
  exact (Job.openingStates_pairwise job.mode).imp fun h => .restate _ _ h.1 h.2 none

theorem Job.openings_last (request : OutboundRequest) : ∃ before,
    Job.openings id job source = before ++ [(Job.launch id job request source).progress] := by
  unfold Job.openings Job.openingStates Job.launch
  cases job.mode with
  | sync => exact ⟨[_], rfl⟩
  | async => exact ⟨[_, _], rfl⟩

theorem Job.openings_precede (request : OutboundRequest) : ∀ p ∈ Job.openings id job source,
    p.Precedes (Job.launch id job request source).progress := by
  obtain ⟨before, hb⟩ := Job.openings_last id job source request
  have hpair := Job.openings_pairwise id job source
  intro p hp
  rw [hb, List.pairwise_append] at hpair
  rw [hb, List.mem_append, List.mem_singleton] at hp
  rcases hp with hp | rfl
  · exact hpair.2.2 p hp _ (List.mem_singleton_self _)
  · exact .refl _

end

theorem toNat_toUInt32_of_le (n : Nat) (c : UInt32) (h : n ≤ c.toNat) : n.toUInt32.toNat = n := by
  have hc := c.toNat_lt
  exact UInt32.toNat_ofNat_of_lt (by change _ < 0x100000000; omega)

theorem toUInt32_le_toUInt32 (m n : Nat) (c : UInt32) (hmn : m ≤ n) (h : n ≤ c.toNat) :
    m.toUInt32 ≤ n.toUInt32 := by
  rw [UInt32.le_iff_toNat_le, toNat_toUInt32_of_le n c h,
    toNat_toUInt32_of_le m c (hmn.trans h)]
  exact hmn

/-- A job shows what it has counted, and the state that its phase calls for. -/
structure Job.Shown (mode : Mode) (j : Job) : Prop where
  count : j.progress.count = j.count
  sent : j.progress.sentCount = j.progress.packetIds.length.toUInt32
  failed : j.progress.failedCount = j.failures.length.toUInt32
  state : j.progress.state = if j.phase = .finished then .completed else Job.launchedState mode

theorem Job.shown_launch (id : JobId) (job : ResendJob) (request : OutboundRequest)
    (source : PacketId) : (Job.launch id job request source).Shown job.mode :=
  ⟨rfl, rfl, rfl, rfl⟩

theorem Job.launchedState_ne (mode : Mode) : Job.launchedState mode ≠ .completed := by
  cases mode <;> decide

theorem JobState.rank_le (s : JobState) : s.rank ≤ JobState.completed.rank := by
  cases s <;> decide

theorem Job.Account.counted_le {n : Nat} {es : List Entry} {j : Job} {made replied : Nat}
    {pending : Option (Nat × Attempted)} (h : j.Account n es made replied pending) :
    j.progress.packetIds.length + j.failures.length ≤ j.count.toNat := by
  have hids := congrArg List.length h.ids
  have hattempts := h.attempts.length_eq
  have hreplied : replied ≤ j.count.toNat := h.phase.replied_le
  rw [List.length_map, List.length_append] at hids
  rw [List.length_append, List.length_append, List.length_map, List.length_map,
    List.length_range'] at hattempts
  omega

namespace Job.Shown

variable {mode : Mode} {j : Job} (h : j.Shown mode)

include h

theorem state_ne (hp : j.phase ≠ .finished) : j.progress.state ≠ .completed := by
  rw [h.state, if_neg hp]
  exact Job.launchedState_ne mode

theorem finished_of (hs : j.progress.state = .completed) : j.phase = .finished := by
  by_contra hp
  exact h.state_ne hp hs

theorem rephase (hp : j.phase ≠ .finished) (p : Phase) (hn : p ≠ .finished) :
    ({ j with phase := p } : Job).Shown mode := by
  refine ⟨h.count, h.sent, h.failed, ?_⟩
  change j.progress.state = _
  rw [h.state, if_neg hp]
  exact (if_neg hn).symm

theorem publish {a : Nat} {what : Attempted} (hp : j.phase = .judged a what) :
    ({ j.tally a what with phase := .published a } : Job).Shown mode := by
  have hstate := h.state
  rw [hp] at hstate
  cases what with
  | stored id => exact ⟨h.count, rfl, rfl, hstate⟩
  | failed message => exact ⟨h.count, rfl, rfl, hstate⟩

theorem finish (elapsedMs : UInt64) : (j.finish elapsedMs).Shown mode :=
  ⟨h.count, h.sent, h.failed, rfl⟩

theorem coherent {n : Nat} {es : List Entry} {made replied : Nat}
    {pending : Option (Nat × Attempted)} (ha : j.Account n es made replied pending) :
    j.progress.Coherent := by
  have hle := ha.counted_le
  have hs := toNat_toUInt32_of_le j.progress.packetIds.length j.count (by omega)
  have hf := toNat_toUInt32_of_le j.failures.length j.count (by omega)
  refine ⟨?_, ?_, ?_, ?_⟩
  · rw [h.sent, hs]
  · rw [h.sent, h.failed, h.count, hs, hf]
    exact hle
  · by_cases hp : j.phase = .finished
    · obtain ⟨ms, hms⟩ := ha.finished hp
      rw [hms, h.state, if_pos hp]
      exact ⟨fun _ => rfl, fun _ => rfl⟩
    · rw [ha.unfinished hp]
      exact ⟨fun hr => absurd hr (by simp), fun hc => absurd hc (h.state_ne hp)⟩
  · intro r hr
    have hp : j.phase = .finished := by
      by_contra hp
      rw [ha.unfinished hp] at hr
      cases hr
    have hsum := (ha.of_result r hr).2.sum
    obtain ⟨ms, hms⟩ := ha.finished hp
    rw [hms] at hr
    cases hr
    rw [h.sent, h.failed, h.count]
    exact ⟨hsum, rfl, rfl, rfl, rfl, rfl⟩

theorem publish_precedes {n : Nat} {es : List Entry} {made replied a : Nat}
    {pending : Option (Nat × Attempted)} {what : Attempted} (hp : j.phase = .judged a what)
    (ha : ({ j.tally a what with phase := .published a } : Job).Account n es made replied pending) :
    j.progress.Precedes (j.tally a what).progress := by
  -- The account after the move bounds both counts, so neither is cut off.
  have hle := ha.counted_le
  have hne : j.progress.state ≠ .completed := h.state_ne (by simp [hp])
  cases what with
  | stored id =>
    change (j.progress.packetIds ++ [id]).length + j.failures.length ≤ j.count.toNat at hle
    refine ⟨rfl, rfl, rfl, le_refl _, ?_, ?_, List.prefix_append _ _, fun hc => absurd hc hne⟩
    · rw [h.sent]
      exact toUInt32_le_toUInt32 _ _ j.count (by simp) (by omega)
    · rw [h.failed]
      exact UInt32.le_refl _
  | failed message =>
    change j.progress.packetIds.length +
      (j.failures ++ [⟨a.toUInt32, message⟩] : List Failure).length ≤ j.count.toNat at hle
    refine ⟨rfl, rfl, rfl, le_refl _, ?_, ?_, List.prefix_refl _, fun hc => absurd hc hne⟩
    · rw [h.sent]
      exact UInt32.le_refl _
    · rw [h.failed]
      exact toUInt32_le_toUInt32 _ _ j.count (by simp) (by omega)

end Job.Shown

section

variable {n : Nat} {s s' : Store} {j j' : Job} {es : List Entry}

theorem Job.Move.not_over (hm : Job.Move n s j s' j' es) : j.isOver = false := by
  cases hm with
  | dispatch _ h | fail _ h | drop _ h | keep _ h | die _ h | mirror _ _ h | publish _ _ h
  | next _ h | pause _ h | finish _ h | wake _ _ h => simp [Job.isOver, h]

theorem Job.Move.shown {mode : Mode} (hm : Job.Move n s j s' j' es) (h : j.Shown mode) :
    j'.Shown mode := by
  cases hm with
  | publish a what hp => exact h.publish hp
  | finish a hp hle elapsedMs => exact h.finish elapsedMs
  | dispatch _ hp | fail _ hp | drop _ hp | keep _ hp | die _ hp | mirror _ _ hp | next _ hp
  | pause _ hp | wake _ _ hp => exact h.rephase (by simp [hp]) _ (by simp)

/-- **A move of a job shows nothing that goes back.** -/
theorem Job.Move.precedes {mode : Mode} {before : List Entry} {made replied : Nat}
    {pending : Option (Nat × Attempted)} (hm : Job.Move n s j s' j' es) (h : j.Shown mode)
    (ha : j.Account n before made replied pending) : j.progress.Precedes j'.progress := by
  obtain ⟨made', replied', pending', ha'⟩ := hm.account ha
  cases hm with
  | publish a what hp => exact h.publish_precedes hp ha'
  | finish a hp hle elapsedMs =>
    exact .restate _ _ (JobState.rank_le _) (h.state_ne (by simp [hp])) _
  | dispatch | fail | drop | keep | die | mirror | next | pause | wake => exact .refl _

theorem Job.Move.dead_progress (hm : Job.Move n s j s' j' es) (hd : j'.phase = .dead) :
    j'.progress = j.progress := by
  cases hm with
  | die => rfl
  | dispatch | fail | drop | keep | mirror | publish | next | pause | finish | wake => cases hd

end

theorem World.step_shown (ids : Nat → JobId) (w : World) (e : Event) (n : Nat) (j : Job)
    (mode : Mode) (log : List Record) (hw : w.Sound ids log)
    (hj : w.coordinator.jobs[n]? = some j) (h : j.Shown mode) :
    ∃ j', (w.step ids e).2.coordinator.jobs[n]? = some j' ∧ j'.Shown mode ∧
      j.progress.Precedes j'.progress ∧ (j.isOver = true → j' = j) ∧
      (j'.phase = .dead → j'.progress = j.progress) := by
  obtain ⟨made, replied, pending, ha⟩ := (hw.jobs n j hj).account
  obtain ⟨j', hj', rfl | ⟨s, es, hm⟩⟩ := w.step_job ids e n j hj
  · exact ⟨j', hj', h, .refl _, fun _ => rfl, fun _ => rfl⟩
  · refine ⟨j', hj', hm.shown h, hm.precedes h ha, ?_, hm.dead_progress⟩
    intro hover
    rw [hm.not_over] at hover
    cases hover

theorem World.run_shown (ids : Nat → JobId) (es : List Event) (w : World) (n : Nat) (j : Job)
    (mode : Mode) (log : List Record) (hw : w.Sound ids log)
    (hj : w.coordinator.jobs[n]? = some j) (h : j.Shown mode) :
    ∃ j', (World.run ids w es).2.coordinator.jobs[n]? = some j' ∧ j'.Shown mode ∧
      j.progress.Precedes j'.progress ∧ (j.isOver = true → j' = j) := by
  induction es generalizing w log j with
  | nil => exact ⟨j, hj, h, .refl _, fun _ => rfl⟩
  | cons e es ih =>
    obtain ⟨j₁, hj₁, h₁, hp₁, ho₁, -⟩ := World.step_shown ids w e n j mode log hw hj h
    obtain ⟨new, hw₁, -⟩ := hw.step e
    obtain ⟨j₂, hj₂, h₂, hp₂, ho₂⟩ := ih (w.step ids e).2 j₁ _ hw₁ hj₁ h₁
    refine ⟨j₂, hj₂, h₂, hp₁.trans hp₂, ?_⟩
    intro hover
    have he : j₁ = j := ho₁ hover
    rw [← he] at hover ⊢
    exact ho₂ hover

/-- **Looks at a job go forward.** From any reachable world, let a call that has found its packet
launch a job, let any events follow, and then more. What is seen of the job at the two times is in
order, agrees with itself, and follows what the launch published before the job was known. Nobody
sees that a job which is waited for is detached, or that another runs or waits. A job whose task has
died stays as it was shown last, and is never completed. -/
theorem World.looks_go_forward (ids : Nat → JobId) (w₀ : World) (h₀ : w₀.Reachable ids) (key : Nat)
    (job : ResendJob) (inMemory : Bool) (source edited : Record)
    (hcall : w₀.calls key = some (.finding job inMemory))
    (hsource : w₀.store.look inMemory job.source true = some (.ok source))
    (hrules : applyRules source job.rules job.policy = .ok edited) (es es' : List Event) :
    let n := w₀.coordinator.jobs.size
    let seen := fun es => (World.run ids w₀ (.advance key :: es)).2.coordinator.jobs[n]?
    ∃ j j', seen es = some j ∧ seen (es ++ es') = some j' ∧
      j.progress.Precedes j'.progress ∧ j.progress.Coherent ∧ j'.progress.Coherent ∧
      ((Job.openings (ids n) job source.id ++ [j.progress]).Pairwise Progress.Precedes ∧
        ∀ p ∈ Job.openings (ids n) job source.id, p.Coherent) ∧
      (job.mode = .sync → j.progress.state ≠ .detached) ∧
      (job.mode = .async → j.progress.state = .detached ∨ j.progress.state = .completed) ∧
      (j.phase = .dead → j.progress.state ≠ .completed ∧ j' = j) ∧
      ∀ e i, seen (es ++ [e]) = some i → i.phase = .dead → i.progress = j.progress := by
  intro n seen
  obtain ⟨log₀, hs₀⟩ := h₀.sound
  obtain ⟨hs₁, hj₁⟩ := hs₀.launched key job inMemory source edited hcall hsource hrules
  have hshown := Job.shown_launch (ids n) job (.ofRecord edited) source.id
  obtain ⟨j, hj, h, hp, -⟩ := World.run_shown ids es _ n _ job.mode log₀ hs₁ hj₁ hshown
  obtain ⟨log, hs⟩ := hs₁.run es
  obtain ⟨j', hj', h', hp', hover⟩ := World.run_shown ids es' _ n j job.mode log hs hj h
  obtain ⟨log', hs'⟩ := hs.run es'
  obtain ⟨made, replied, pending, ha⟩ := (hs.jobs n j hj).account
  obtain ⟨made', replied', pending', ha'⟩ := (hs'.jobs n j' hj').account
  have hseen : ∀ more, seen (es ++ more) = (World.run ids
      (World.run ids (w₀.step ids (.advance key)).2 es).2 more).2.coordinator.jobs[n]? := by
    intro more
    rw [← World.run_append]
    rfl
  refine ⟨j, j', hj, (hseen es').trans hj', hp', h.coherent ha, h'.coherent ha', ⟨?_, ?_⟩, ?_, ?_,
    ?_, ?_⟩
  · rw [List.pairwise_append]
    refine ⟨Job.openings_pairwise _ job _, by simp, ?_⟩
    intro p hopen q hq
    obtain rfl := List.mem_singleton.mp hq
    exact (Job.openings_precede _ job _ (.ofRecord edited) p hopen).trans hp
  · exact Job.openings_coherent _ job _
  · intro hmode
    rw [h.state, hmode]
    split <;> decide
  · intro hmode
    rw [h.state, hmode]
    split
    · exact .inr rfl
    · exact .inl rfl
  · intro hdead
    exact ⟨h.state_ne (by simp [hdead]), hover (by simp [Job.isOver, hdead])⟩
  · intro e i hi hdead
    obtain ⟨i', hi', -, -, -, hlast⟩ := World.step_shown ids _ e n j job.mode log hs hj h
    rw [hseen] at hi
    change (World.step ids _ e).2.coordinator.jobs[n]? = some i at hi
    rw [hi'] at hi
    cases hi
    exact hlast hdead

/-- After its first attempt, which failed, and at its end. -/
theorem World.looks_go_forward_twice :
    ∃ j j', (World.run strokes World.twice (.advance 0 :: Event.twice.take 3)).2.coordinator.jobs[0]? =
        some j ∧
      (World.run strokes World.twice (.advance 0 :: Event.twice)).2.coordinator.jobs[0]? = some j' ∧
      j.progress.failedCount = 1 ∧ j'.progress.packetIds = [2] ∧
      j.progress.Precedes j'.progress ∧ j'.progress.Coherent := by
  have hreach : World.twice.Reachable strokes :=
    .next _ (.start _ (fun _ => 1) [.append (.bare "/") none] rfl) _
  have hn : World.twice.coordinator.jobs.size = 0 := rfl
  have h := World.looks_go_forward strokes World.twice hreach 0 { ResendJob.once 1 with count := 2 }
    true ((Draft.bare "/").withId 1) ((Draft.bare "/").withId 1) rfl rfl rfl (Event.twice.take 3)
    (Event.twice.drop 3)
  rw [hn, List.take_append_drop] at h
  obtain ⟨j, j', hj, hj', hp, -, hc, -⟩ := h
  have hfailed := congrArg (Option.map fun j : Job => j.progress.failedCount) hj
  have hids := congrArg (Option.map fun j : Job => j.progress.packetIds) hj'
  change some 1 = some j.progress.failedCount at hfailed
  change some [2] = some j'.progress.packetIds at hids
  exact ⟨j, j', hj, hj', (Option.some.inj hfailed).symm, (Option.some.inj hids).symm, hp, hc⟩

end PacketReplay
