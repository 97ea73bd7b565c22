import PacketReplay.Proofs.KnownJobs
import PacketReplay.Proofs.ProgressOrder

set_option autoImplicit false

namespace PacketReplay

open JobRegistry (retained maxTracked)

theorem World.Reachable.shown {ids : Nat → JobId} {w : World} (hw : w.Reachable ids) (n : Nat)
    (j : Job) (hj : w.coordinator.jobs[n]? = some j) : ∃ mode, j.Shown mode := by
  induction hw generalizing j with
  | start service size ops hs =>
    change service.coordinator.jobs[n]? = some j at hj
    rw [hs] at hj
    cases hj
  | next w hw e ih =>
    cases hi : w.coordinator.jobs[n]? with
    | some i =>
      obtain ⟨mode, h⟩ := ih i hi
      obtain ⟨j', hj', rfl | ⟨s, es, hm⟩⟩ := w.step_job ids e n i hi
      · rw [hj'] at hj
        cases hj
        exact ⟨mode, h⟩
      · rw [hj'] at hj
        cases hj
        exact ⟨mode, hm.shown h⟩
    | none =>
      rw [Array.getElem?_eq_none_iff] at hi
      rcases w.step_known ids e with ⟨-, hsize⟩ | ⟨job, source, request, hc⟩
      · have hlt := (Array.getElem?_eq_some_iff.mp hj).1
        omega
      · rw [hc] at hj
        change (w.coordinator.jobs.push (Job.launch _ job request source))[n]? = some j at hj
        rw [Array.getElem?_push] at hj
        split at hj
        · cases hj
          exact ⟨job.mode, Job.shown_launch _ job request source⟩
        · rw [Array.getElem?_eq_none_iff.mpr hi] at hj
          cases hj

theorem Job.Shown.isFinished_iff {mode : Mode} {j : Job} (h : j.Shown mode) :
    j.isFinished = true ↔ j.phase = .finished := by
  rw [Job.isFinished, beq_iff_eq]
  constructor
  · exact h.finished_of
  · intro hp
    rw [h.state, if_pos hp]

theorem World.Tracks.mem_order {ids : Nat → JobId} (hids : Function.Injective ids) {w : World}
    {ns : List Nat} (h : w.Tracks ids ns) (n : Nat) :
    ids n ∈ w.coordinator.registry.order ↔ n ∈ ns := by
  rw [h.registry.order, List.mem_map_of_injective hids]

def World.killing (w : World) (n : Nat) : World :=
  ((w.step strokes (.dispatch n)).2.step strokes (.receive n .death .epoch none)).2

section

variable (w : World) (n : Nat) (j : Job) (hj : w.coordinator.jobs[n]? = some j) (a : Nat)
  (hp : j.phase = .ready a)

include hj hp

theorem World.killing_eq : w.killing n =
    (w.moved n w.store { j with phase := .sending a } [.sent n a j.request]).moved n w.store
      { j with phase := .dead } [.replied n a .death none] := by
  have hsent : (w.moved n w.store { j with phase := .sending a }
      [.sent n a j.request]).coordinator.jobs[n]? = some { j with phase := .sending a } := by
    change (w.coordinator.put n w.store _).jobs[n]? = _
    rw [Coordinator.getElem?_put, if_pos rfl, hj]
    rfl
  change (w.dispatch n).receive n .death .epoch none = _
  rw [w.dispatch_eq n j hj a hp, World.receive_death_eq _ n _ hsent a rfl]
  rfl

theorem World.killing_jobs (k : Nat) : (w.killing n).coordinator.jobs[k]? =
    if n = k then some { j with phase := .dead } else w.coordinator.jobs[k]? := by
  rw [w.killing_eq n j hj a hp]
  change ((w.coordinator.put n w.store _).put n w.store _).jobs[k]? = _
  rw [Coordinator.getElem?_put, Coordinator.getElem?_put]
  split
  · rename_i hk
    rw [← hk, hj]
    rfl
  · rfl

theorem World.killing_size :
    (w.killing n).coordinator.jobs.size = w.coordinator.jobs.size := by
  rw [w.killing_eq n j hj a hp]
  exact Array.size_modify.trans Array.size_modify

theorem World.killing_rest : (w.killing n).store = w.store ∧
    (w.killing n).coordinator.registry = w.coordinator.registry ∧
    (w.killing n).calls = w.calls := by
  rw [w.killing_eq n j hj a hp]
  exact ⟨rfl, rfl, rfl⟩

end

namespace World.Crowded

variable {w : World} {n : Nat} (h : w.Crowded n) (hn : 1 < n)

include h hn

theorem killing_jobs (k : Nat) : (w.killing 1).coordinator.jobs[k]? =
    if 1 = k then some { Job.ofCrowd 1 with phase := .dead } else w.coordinator.jobs[k]? :=
  World.killing_jobs w 1 _ (h.jobs 1 hn) 1 rfl k

theorem killing_size : (w.killing 1).coordinator.jobs.size = n :=
  (World.killing_size w 1 _ (h.jobs 1 hn) 1 rfl).trans h.size

theorem killing_rest : (w.killing 1).store = w.store ∧
    (w.killing 1).coordinator.registry = w.coordinator.registry ∧ (w.killing 1).calls = w.calls :=
  World.killing_rest w 1 _ (h.jobs 1 hn) 1 rfl

theorem killing_tracks : (w.killing 1).Tracks strokes (List.range n) where
  registry := by
    rw [(h.killing_rest hn).2.1]
    exact h.tracks.registry
  launched := by
    intro k hk
    rw [h.killing_size hn]
    exact List.mem_range.mp hk

theorem killing_isFinished (k : Nat) (hk : k < n) :
    (w.killing 1).coordinator.isFinished k = false := by
  have hjob := h.killing_jobs hn k
  by_cases hone : 1 = k
  · rw [Coordinator.isFinished_of _ k _ (hjob.trans (if_pos hone))]
    rfl
  · rw [Coordinator.isFinished_of _ k _ (hjob.trans ((if_neg hone).trans (h.jobs k hk)))]
    rfl

theorem killing_calls (key : Nat) (hkey : n ≤ key) : (w.killing 1).calls key = none := by
  rw [(h.killing_rest hn).2.2]
  exact h.calls key hkey

end World.Crowded

/-- One more job in a full crowd with a dead one: the oldest goes. -/
theorem World.Crowded.order_sending {w : World} (h : w.Crowded maxTracked) :
    ((w.killing 1).sending maxTracked).coordinator.registry.order =
      (List.range' 1 maxTracked).map strokes := by
  have hone : 1 < maxTracked := by decide
  have htracks := h.killing_tracks hone
  have hcall := h.killing_calls hone maxTracked (le_refl _)
  have hstore := (h.killing_rest hone).1.trans h.store
  have ht := Coordinator.tracks_enlist strokes_injective htracks.registry htracks.launched
    (.once 1) 1 (.ofRecord ((Draft.bare "/").withId 1))
  rw [← World.sending_coordinator _ maxTracked hcall hstore] at ht
  have hlive := Coordinator.filter_isFinished _ maxTracked (h.killing_isFinished hone)
  rw [ht.order, h.killing_size hone, retained, if_neg (by simp), JobRegistry.unsettled, hlive,
    ← List.range_succ, List.range_eq_range', List.rtake, List.length_range', List.drop_range']
  simp

theorem World.exists_bereaved : ∃ w : World, w.Reachable strokes ∧
    w.coordinator.jobs[0]? = some (.ofCrowd 0) ∧
    w.coordinator.jobs[1]? = some { Job.ofCrowd 1 with phase := .dead } ∧
    strokes 0 ∈ w.coordinator.registry.order ∧
    strokes 0 ∉ (w.step strokes (.advance maxTracked)).2.coordinator.registry.order ∧
    strokes 1 ∈ (w.step strokes (.advance maxTracked)).2.coordinator.registry.order := by
  obtain ⟨w, hw, h⟩ := World.exists_crowded
  have hone : 1 < maxTracked := by decide
  have hcoord := World.asking_coordinator _ maxTracked
    (h.killing_calls hone maxTracked (le_refl _))
  have hjobs := h.killing_jobs hone
  have horder := h.order_sending
  rw [World.sending] at horder
  refine ⟨(w.killing 1).asking maxTracked, ((hw.next _ _).next _ _).next _ _, ?_, ?_, ?_, ?_, ?_⟩
  · rw [hcoord, hjobs 0]
    exact h.jobs 0 (by decide)
  · rw [hcoord, hjobs 1]
    rfl
  · rw [hcoord, (h.killing_tracks hone).mem_order strokes_injective]
    exact List.mem_range.mpr (by decide)
  · rw [horder, List.mem_map_of_injective strokes_injective, List.mem_range']
    omega
  · rw [horder, List.mem_map_of_injective strokes_injective, List.mem_range']
    exact ⟨0, by decide, rfl⟩

/-- **Which jobs a launch forgets.** If an event makes a job unknown whose task is still there, then
every job that was there before and is still known is younger and has no result. If the task of such
a job is gone all the same, it has died. -/
theorem World.forgets_oldest_without_result (ids : Nat → JobId) (hids : Function.Injective ids)
    (w : World) (hw : w.Reachable ids) (e : Event) (a b : Nat) (ja jb : Job)
    (ha : w.coordinator.jobs[a]? = some ja) (hb : w.coordinator.jobs[b]? = some jb)
    (hknown : ids a ∈ w.coordinator.registry.order)
    (hgone : ids a ∉ (w.step ids e).2.coordinator.registry.order) (hlive : ja.isOver = false)
    (hstays : ids b ∈ (w.step ids e).2.coordinator.registry.order) :
    a < b ∧ jb.progress.state ≠ .completed ∧ (jb.isOver = true → jb.phase = .dead) := by
  have h := hw.tracks hids
  rcases h.step hids e with ⟨hsame, -⟩ | ⟨-, h'⟩
  · rw [hsame] at hgone
    exact absurd hknown hgone
  · rw [h.mem_order hids] at hknown
    rw [h'.mem_order hids] at hgone hstays
    obtain ⟨_, hsa⟩ := hw.shown a ja ha
    obtain ⟨_, hsb⟩ := hw.shown b jb hb
    have hfa : w.coordinator.isFinished a = false := by
      rw [w.coordinator.isFinished_of a ja ha, ← Bool.not_eq_true]
      intro hf
      rw [Job.isOver, hsa.isFinished_iff.mp hf] at hlive
      cases hlive
    have hnew : b ≠ w.coordinator.jobs.size := Nat.ne_of_lt (Array.getElem?_eq_some_iff.mp hb).1
    obtain ⟨-, hafter⟩ := JobRegistry.retained_after _ _ _ (h.registry.rising_append _ h.launched) a
      hknown hfa hgone
    obtain ⟨hab, hfb⟩ := hafter b hstays
    have hphase : jb.phase ≠ .finished := by
      rw [Ne, ← hsb.isFinished_iff, Bool.not_eq_true, ← w.coordinator.isFinished_of b jb hb]
      exact hfb.resolve_left hnew
    refine ⟨hab, fun hs => hphase (hsb.finished_of hs), ?_⟩
    intro hover
    rw [Job.isOver, Bool.or_eq_true, beq_iff_eq, beq_iff_eq] at hover
    exact hover.resolve_left hphase

theorem World.forgets_oldest_crowd : ∃ (w : World) (e : Event) (jb : Job),
    w.coordinator.jobs[1]? = some jb ∧ strokes 0 ∈ w.coordinator.registry.order ∧
    strokes 0 ∉ (w.step strokes e).2.coordinator.registry.order ∧ jb.phase = .dead := by
  obtain ⟨w, hw, hzero, hone, hknown, hgone, hstays⟩ := World.exists_bereaved
  obtain ⟨-, -, hdead⟩ := World.forgets_oldest_without_result strokes strokes_injective w hw _ 0 1
    _ _ hzero hone hknown hgone rfl hstays
  exact ⟨w, _, _, hone, hknown, hgone, hdead rfl⟩

/-- It is not so that a job whose task is still there outlasts those whose task is gone. -/
theorem World.not_forgets_dead_first : ¬ ∀ (w : World) (e : Event) (a b : Nat) (ja jb : Job),
    w.Reachable strokes → w.coordinator.jobs[a]? = some ja → w.coordinator.jobs[b]? = some jb →
    strokes a ∈ w.coordinator.registry.order →
    strokes a ∉ (w.step strokes e).2.coordinator.registry.order → ja.isOver = false →
    strokes b ∈ (w.step strokes e).2.coordinator.registry.order → jb.isOver = false := by
  intro h
  obtain ⟨w, hw, hzero, hone, hknown, hgone, hstays⟩ := World.exists_bereaved
  have hover := h w _ 0 1 _ _ hw hzero hone hknown hgone rfl hstays
  cases hover

end PacketReplay
