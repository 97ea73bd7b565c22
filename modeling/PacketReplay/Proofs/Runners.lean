import PacketReplay.Proofs.ProgressOrder

set_option autoImplicit false

namespace PacketReplay

inductive Happening where
  | event (e : Event)
  /-- The runner of a job goes, with the sender of its channel. -/
  | drop (number : Nat)

structure Scene where
  world : World
  gone : Nat → Bool

namespace Scene

def start (service : Service) : Scene :=
  ⟨.start service, fun _ => false⟩

def jobs (s : Scene) : Array Job :=
  s.world.coordinator.jobs

/-- A runner that has not published its result when it goes will not do so any more. -/
def step (ids : Nat → JobId) (s : Scene) : Happening → Scene
  | .event e => { s with world := (s.world.step ids e).2 }
  | .drop n =>
    if n < s.jobs.size then
      ⟨s.world.withCoordinator (s.world.coordinator.change n Job.die),
        fun m => m == n || s.gone m⟩
    else s

def run (ids : Nat → JobId) (s : Scene) (hs : List Happening) : Scene :=
  hs.foldl (step ids) s

end Scene

/-- A job shows its id, and a result exactly when it is finished. -/
structure Job.Posts (id : JobId) (j : Job) : Prop where
  id : j.progress.job = id
  result : j.progress.result.isSome = true ↔ j.phase = .finished

/-- A scene is in order: its jobs are, and a runner that is gone has come to its end. -/
structure Scene.Sound (ids : Nat → JobId) (s : Scene) : Prop where
  jobs : ∀ (n : Nat) (j : Job), s.jobs[n]? = some j → j.Posts (ids n)
  gone : ∀ n, s.gone n = true → ∃ j, s.jobs[n]? = some j ∧ j.isOver = true

theorem Job.posts_launch (id : JobId) (job : ResendJob) (request : OutboundRequest)
    (source : PacketId) : (Job.launch id job request source).Posts id :=
  ⟨rfl, fun hr => (by cases hr), fun hp => (by cases hp)⟩

theorem Job.Posts.unfinished {id : JobId} {j j' : Job} (h : j.Posts id)
    (hover : j.isOver = false) (hkept : j'.progress.job = j.progress.job)
    (hresult : j'.progress.result = j.progress.result) (hp : j'.phase ≠ .finished) :
    j'.Posts id := by
  have hnot : ¬ j.progress.result.isSome = true := by
    rw [h.result]
    intro hf
    simp [isOver, hf] at hover
  rw [← hresult] at hnot
  exact ⟨hkept.trans h.id, fun hr => absurd hr hnot, fun hf => absurd hf hp⟩

theorem Job.Move.posts {n : Nat} {s s' : Store} {j j' : Job} {es : List Entry} {id : JobId}
    (hm : Job.Move n s j s' j' es) (h : j.Posts id) : j'.Posts id := by
  have hover := hm.not_over
  cases hm with
  | finish => exact ⟨h.id, fun _ => rfl, fun _ => rfl⟩
  | publish a what =>
    cases what with
    | stored => exact h.unfinished hover rfl rfl (fun hp => by cases hp)
    | failed => exact h.unfinished hover rfl rfl (fun hp => by cases hp)
  | dispatch | fail | drop | keep | die | mirror | next | pause | wake =>
    exact h.unfinished hover rfl rfl (fun hp => by cases hp)

theorem Job.die_of_over (j : Job) (h : j.isOver = true) : j.die = j := if_pos h

theorem Job.isOver_die (j : Job) : j.die.isOver = true := by
  unfold die
  split
  · assumption
  · rfl

theorem Job.Posts.die {id : JobId} {j : Job} (h : j.Posts id) : j.die.Posts id := by
  by_cases hover : j.isOver = true
  · rwa [j.die_of_over hover]
  · rw [Job.die, if_neg hover]
    exact h.unfinished (by simpa using hover) rfl rfl (fun hp => by cases hp)

theorem World.step_job_from (ids : Nat → JobId) (w : World) (e : Event) (n : Nat) (j' : Job)
    (h : (w.step ids e).2.coordinator.jobs[n]? = some j') :
    (∃ j, w.coordinator.jobs[n]? = some j ∧ (j' = j ∨ ∃ s es, Job.Move n w.store j s j' es)) ∨
      ∃ job request source, j' = Job.launch (ids n) job request source := by
  cases hj : w.coordinator.jobs[n]? with
  | some j =>
    obtain ⟨i, hi, hmove⟩ := w.step_job ids e n j hj
    rw [h] at hi
    cases hi
    exact .inl ⟨j, rfl, hmove⟩
  | none =>
    rcases w.step_known ids e with ⟨-, hsize⟩ | ⟨job, source, request, hc⟩
    · rw [Array.getElem?_eq_none_iff, ← hsize] at hj
      rw [Array.getElem?_eq_none hj] at h
      cases h
    · rw [hc] at h
      change (w.coordinator.jobs.push _)[n]? = some j' at h
      rw [Array.getElem?_push] at h
      split at h
      · rename_i hn
        rw [hn]
        exact .inr ⟨job, request, source, (Option.some.inj h).symm⟩
      · rw [hj] at h
        cases h

namespace Scene

variable (ids : Nat → JobId) (s : Scene)

theorem jobs_drop (m : Nat) (hm : m < s.jobs.size) (n : Nat) : (s.step ids (.drop m)).jobs[n]? =
    if m = n then s.jobs[n]?.map Job.die else s.jobs[n]? := by
  rw [step, if_pos hm]
  exact Array.getElem?_modify

variable {ids s}

theorem Sound.start (service : Service) (h : service.coordinator.jobs = #[]) :
    (Scene.start service).Sound ids := by
  refine ⟨fun n j hj => ?_, fun n hn => by cases hn⟩
  change service.coordinator.jobs[n]? = some j at hj
  rw [h] at hj
  cases hj

theorem Sound.event (h : s.Sound ids) (e : Event) : (s.step ids (.event e)).Sound ids := by
  refine ⟨fun n j' hj' => ?_, fun n hn => ?_⟩
  · rcases s.world.step_job_from ids e n j' hj' with
      ⟨j, hj, rfl | ⟨_, _, hm⟩⟩ | ⟨job, request, source, rfl⟩
    · exact h.jobs n j' hj
    · exact hm.posts (h.jobs n j hj)
    · exact Job.posts_launch _ job request source
  · obtain ⟨j, hj, hover⟩ := h.gone n hn
    obtain ⟨j', hj', rfl | ⟨_, _, hm⟩⟩ := s.world.step_job ids e n j hj
    · exact ⟨j', hj', hover⟩
    · rw [hm.not_over] at hover
      cases hover

theorem Sound.drop (h : s.Sound ids) (m : Nat) : (s.step ids (.drop m)).Sound ids := by
  by_cases hm : m < s.jobs.size
  · have hjobs := s.jobs_drop ids m hm
    refine ⟨fun n j' hj' => ?_, fun n hn => ?_⟩
    · rw [hjobs] at hj'
      split at hj'
      · obtain ⟨j, hj, rfl⟩ := Option.map_eq_some_iff.mp hj'
        exact (h.jobs n j hj).die
      · exact h.jobs n j' hj'
    · rw [hjobs]
      by_cases hmn : m = n
      · rw [if_pos hmn, Array.getElem?_eq_getElem (hmn ▸ hm)]
        exact ⟨_, rfl, Job.isOver_die _⟩
      · rw [if_neg hmn]
        rw [step, if_pos hm] at hn
        refine h.gone n ?_
        simpa [Ne.symm hmn] using hn
  · rwa [step, if_neg hm]

theorem Sound.step (h : s.Sound ids) : ∀ a, (s.step ids a).Sound ids
  | .event e => h.event e
  | .drop m => h.drop m

theorem Sound.run (h : s.Sound ids) (hs : List Happening) : (s.run ids hs).Sound ids := by
  induction hs generalizing s with
  | nil => exact h
  | cons a hs ih => exact ih (h.step a)

variable (ids s)

theorem run_append (hs hs' : List Happening) :
    s.run ids (hs ++ hs') = (s.run ids hs).run ids hs' :=
  List.foldl_append

theorem step_over (n : Nat) (j : Job) (hj : s.jobs[n]? = some j) (hover : j.isOver = true)
    (a : Happening) : (s.step ids a).jobs[n]? = some j := by
  cases a with
  | event e =>
    obtain ⟨j', hj', rfl | ⟨_, _, hm⟩⟩ := s.world.step_job ids e n j hj
    · exact hj'
    · rw [hm.not_over] at hover
      cases hover
  | drop m =>
    by_cases hm : m < s.jobs.size
    · rw [s.jobs_drop ids m hm, hj, Option.map_some, j.die_of_over hover, ite_self]
    · rw [step, if_neg hm, hj]

theorem step_gone (n : Nat) (h : s.gone n = true) (a : Happening) :
    (s.step ids a).gone n = true := by
  cases a with
  | event e => exact h
  | drop m =>
    by_cases hm : m < s.jobs.size
    · rw [step, if_pos hm]
      exact (Bool.or_eq_true _ _).mpr (.inr h)
    · rwa [step, if_neg hm]

theorem step_size (n : Nat) (h : n < s.jobs.size) (a : Happening) :
    n < (s.step ids a).jobs.size := by
  cases a with
  | event e =>
    obtain ⟨j', hj', -⟩ := s.world.step_job ids e n _ (Array.getElem?_eq_getElem h)
    exact (Array.getElem?_eq_some_iff.mp hj').1
  | drop m =>
    by_cases hm : m < s.jobs.size
    · rw [step, if_pos hm]
      exact lt_of_lt_of_eq h Array.size_modify.symm
    · rwa [step, if_neg hm]

end Scene

end PacketReplay
