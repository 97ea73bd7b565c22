import Mathlib.Data.List.DropRight
import Mathlib.Data.List.Nodup
import PacketReplay.Proofs.Accounting

/-!
# Which jobs are known

The registry keeps a list of ids and a map of handles. Both stand for one thing: the numbers of the
known jobs, in launch order. A launch puts its number at the end and, past the cap, first takes out
the completed ones and then the oldest. What is said of the list and of the map is read off the
numbers. The ids of jobs must be different for this.
-/

set_option autoImplicit false

namespace PacketReplay

namespace JobRegistry

def numbers (r : JobRegistry) : List Nat :=
  r.order.filterMap r.find?

/-- A registry stands for the jobs with some numbers. -/
structure Tracks (ids : Nat → JobId) (r : JobRegistry) (ns : List Nat) : Prop where
  order : r.order = ns.map ids
  rising : ns.Pairwise (· < ·)
  handles : ∀ id n, r.find? id = some n ↔ n ∈ ns ∧ ids n = id
  few : ns.length ≤ maxTracked

def unsettled (completed : Nat → Bool) (known : List Nat) (new : Nat) : List Nat :=
  known.filter (fun n => !completed n) ++ [new]

/-- The known jobs after one more: all of them as long as there is room, and else the last of those
not completed. -/
def retained (completed : Nat → Bool) (known : List Nat) (new : Nat) : List Nat :=
  if known.length < maxTracked then known ++ [new]
  else (unsettled completed known new).rtake maxTracked

theorem tracks_empty (ids : Nat → JobId) : empty.Tracks ids [] where
  order := rfl
  rising := .nil
  handles := by
    intro id n
    have hnone : empty.find? id = none := Std.HashMap.getElem?_emptyWithCapacity
    rw [hnone]
    simp
  few := Nat.zero_le _

namespace Tracks

variable {ids : Nat → JobId} {r : JobRegistry} {ns : List Nat} (h : r.Tracks ids ns)

include h

theorem numbers_eq : r.numbers = ns := by
  have hfind : ∀ n ∈ ns, (r.find? ∘ ids) n = some n := fun n hn => (h.handles _ n).mpr ⟨hn, rfl⟩
  rw [numbers, h.order, List.filterMap_map, List.filterMap_congr hfind, List.filterMap_some]

theorem nodup : ns.Nodup :=
  h.rising.imp Nat.ne_of_lt

theorem mem_handles (id : JobId) : id ∈ r.handles ↔ id ∈ r.order := by
  rw [Std.HashMap.mem_iff_isSome_getElem?, h.order, List.mem_map, Option.isSome_iff_exists]
  exact exists_congr fun n => h.handles id n

end Tracks

theorem getElem?_forget_eq_some (handles : Std.HashMap JobId Nat) (xs : List JobId) (id : JobId)
    (n : Nat) : (forget handles xs)[id]? = some n ↔ handles[id]? = some n ∧ id ∉ xs := by
  induction xs generalizing handles with
  | nil => simp [forget]
  | cons x xs ih =>
    have hcons : forget handles (x :: xs) = forget (handles.erase x) xs := rfl
    rw [hcons, ih, Std.HashMap.getElem?_erase]
    by_cases hx : x = id
    · simp [hx]
    · have hne : ¬ id = x := fun he => hx he.symm
      simp [hx, hne]

section

variable {α : Type} (l : List α) (k : Nat)

theorem rtake_sublist : (l.rtake k).Sublist l :=
  List.drop_sublist (l.length - k) l

theorem length_rtake : (l.rtake k).length = min k l.length := by
  rw [List.rtake, List.length_drop]
  omega

theorem mem_rtake_iff (hl : l.Nodup) (a : α) :
    a ∈ l.rtake k ↔ a ∈ l ∧ a ∉ l.take (l.length - k) := by
  constructor
  · intro ha
    exact ⟨List.mem_of_mem_drop ha, fun ht => List.disjoint_take_drop hl (le_refl _) ht ha⟩
  · rintro ⟨ha, ht⟩
    rw [← List.take_append_drop (l.length - k) l, List.mem_append] at ha
    exact ha.resolve_left ht

end

theorem rtake_after (l : List Nat) (k : Nat) (hl : l.Pairwise (· < ·)) (n : Nat) (hn : n ∈ l)
    (hgone : n ∉ l.rtake k) : (l.rtake k).length = k ∧ ∀ m ∈ l.rtake k, n < m := by
  have htake : n ∈ l.take (l.length - k) := by
    by_contra ht
    exact hgone ((mem_rtake_iff l k (hl.imp Nat.ne_of_lt) n).mpr ⟨hn, ht⟩)
  constructor
  · have hpos := List.length_pos_of_mem htake
    rw [List.length_take] at hpos
    rw [length_rtake]
    omega
  · rw [← List.take_append_drop (l.length - k) l, List.pairwise_append] at hl
    exact fun m hm => hl.2.2 n htake m hm

section

variable {ids : Nat → JobId} (hids : Function.Injective ids) {r : JobRegistry} {ns : List Nat}
  (h : r.Tracks ids ns) (completed : Nat → Bool) (new : Nat) (hnew : ∀ n ∈ ns, n < new)

theorem unsettled_sublist : (unsettled completed ns new).Sublist (ns ++ [new]) :=
  List.filter_sublist.append_right [new]

theorem mem_unsettled (n : Nat) :
    n ∈ unsettled completed ns new ↔ n ∈ ns ∧ completed n = false ∨ n = new := by
  rw [unsettled, List.mem_append, List.mem_filter, List.mem_singleton, Bool.not_eq_true']

theorem retained_sublist : (retained completed ns new).Sublist (ns ++ [new]) := by
  unfold retained
  split
  · exact List.Sublist.refl _
  · exact (rtake_sublist _ _).trans (unsettled_sublist completed new)

theorem mem_retained_new : new ∈ retained completed ns new := by
  unfold retained unsettled
  split
  · simp
  · rw [List.rtake, List.drop_append_of_le_length]
    · simp
    · rw [List.length_append, List.length_singleton, maxTracked]
      omega

include h hnew in
theorem Tracks.rising_append : (ns ++ [new]).Pairwise (· < ·) := by
  rw [List.pairwise_append]
  refine ⟨h.rising, by simp, ?_⟩
  intro n hn m hm
  obtain rfl := List.mem_singleton.mp hm
  exact hnew n hn

include hids h hnew in
theorem Tracks.getElem?_insert (id : JobId) (n : Nat) :
    (r.handles.insert (ids new) new)[id]? = some n ↔ n ∈ ns ++ [new] ∧ ids n = id := by
  rw [Std.HashMap.getElem?_insert, List.mem_append, List.mem_singleton]
  by_cases hid : ids new = id
  · rw [if_pos (by simpa using hid)]
    constructor
    · intro hn
      cases hn
      exact ⟨.inr rfl, hid⟩
    · rintro ⟨-, hn⟩
      rw [hids (hn.trans hid.symm)]
  · rw [if_neg (by simpa using hid)]
    refine (h.handles id n).trans ?_
    constructor
    · exact fun hn => ⟨.inl hn.1, hn.2⟩
    · rintro ⟨hn | rfl, hi⟩
      · exact ⟨hn, hi⟩
      · exact absurd hi hid

include hids h hnew in
theorem Tracks.isStale_eq (n : Nat) (hn : n ∈ ns ++ [new]) :
    isStale (r.handles.insert (ids new) new) completed (ids new) (ids n) =
      (decide (n ≠ new) && completed n) := by
  have hfind := (h.getElem?_insert hids new hnew (ids n) n).mpr ⟨hn, rfl⟩
  have hne : (ids n != ids new) = decide (n ≠ new) := by
    rw [Bool.eq_iff_iff, bne_iff_ne, decide_eq_true_iff]
    exact ⟨fun hi he => hi (congrArg ids he), fun hi he => hi (hids he)⟩
  rw [isStale, hfind, hne]
  rfl

include hids h hnew in
theorem Tracks.filter_isStale (p : Bool → Bool) : (ns.map ids ++ [ids new]).filter
      (fun id => p (isStale (r.handles.insert (ids new) new) completed (ids new) id)) =
    (ns.filter (fun n => p (completed n)) ++ [new].filter fun _ => p false).map ids := by
  have hlist : ns.map ids ++ [ids new] = (ns ++ [new]).map ids := by simp
  have hstale : ∀ n ∈ ns ++ [new],
      ((fun id => p (isStale (r.handles.insert (ids new) new) completed (ids new) id)) ∘ ids) n =
        p (decide (n ≠ new) && completed n) :=
    fun n hn => congrArg p (h.isStale_eq hids completed new hnew n hn)
  have hknown : ∀ n ∈ ns, p (decide (n ≠ new) && completed n) = p (completed n) := by
    intro n hn
    simp [Nat.ne_of_lt (hnew n hn)]
  have hlast : ∀ n ∈ [new], p (decide (n ≠ new) && completed n) = p false := by simp
  rw [hlist, List.filter_map, List.filter_congr hstale, List.filter_append,
    List.filter_congr hknown, List.filter_congr hlast]

include h in
theorem Tracks.track_room (hroom : ns.length < maxTracked) : r.track completed (ids new) new =
    ⟨(ns ++ [new]).map ids, r.handles.insert (ids new) new⟩ := by
  have hlength : (r.order ++ [ids new]).length ≤ maxTracked := by
    simpa [h.order] using Nat.succ_le_of_lt hroom
  rw [JobRegistry.track, if_pos hlength, h.order, List.map_append, List.map_singleton]

include hids h hnew in
theorem Tracks.track_full (hfull : ¬ ns.length < maxTracked) :
    r.track completed (ids new) new =
      ⟨((unsettled completed ns new).rtake maxTracked).map ids,
        forget (forget (r.handles.insert (ids new) new) ((ns.filter completed).map ids))
          (((unsettled completed ns new).take
            ((unsettled completed ns new).length - maxTracked)).map ids)⟩ := by
  have hlength : ¬ (r.order ++ [ids new]).length ≤ maxTracked := by
    rw [h.order, List.length_append, List.length_map, List.length_singleton]
    exact hfull
  have hstale := h.filter_isStale hids completed new hnew id
  have hkept := h.filter_isStale hids completed new hnew not
  simp only [id, List.filter_false, List.append_nil] at hstale
  simp only [Bool.not_false, List.filter_true] at hkept
  rw [JobRegistry.track, if_neg hlength]
  simp only [h.order, hstale, hkept, List.length_map, List.rtake, List.map_drop, List.map_take]
  rfl

include hids h hnew in
theorem Tracks.getElem?_left (id : JobId) (n : Nat) :
    (forget (forget (r.handles.insert (ids new) new) ((ns.filter completed).map ids))
      (((unsettled completed ns new).take
        ((unsettled completed ns new).length - maxTracked)).map ids))[id]? = some n ↔
    n ∈ (unsettled completed ns new).rtake maxTracked ∧ ids n = id := by
  -- No number is there twice, so what is dropped at the front is not among the rest.
  have hnodup : (unsettled completed ns new).Nodup :=
    ((h.rising_append new hnew).sublist (unsettled_sublist completed new)).imp Nat.ne_of_lt
  have hmem : n ∈ unsettled completed ns new ↔ n ∈ ns ++ [new] ∧ n ∉ ns.filter completed := by
    have hne : n ∈ ns → n ≠ new := fun hn => Nat.ne_of_lt (hnew n hn)
    rw [mem_unsettled, List.mem_append, List.mem_singleton, List.mem_filter]
    grind
  rw [getElem?_forget_eq_some, getElem?_forget_eq_some, h.getElem?_insert hids new hnew,
    mem_rtake_iff _ _ hnodup, hmem]
  constructor
  · rintro ⟨⟨⟨hn, rfl⟩, hc⟩, ht⟩
    rw [List.mem_map_of_injective hids] at hc ht
    exact ⟨⟨⟨hn, hc⟩, ht⟩, rfl⟩
  · rintro ⟨⟨⟨hn, hc⟩, ht⟩, rfl⟩
    rw [List.mem_map_of_injective hids, List.mem_map_of_injective hids]
    exact ⟨⟨⟨hn, rfl⟩, hc⟩, ht⟩

include hids h hnew in
/-- **The list and the map stay in step.** After one more job both stand for the retained ones. -/
theorem Tracks.track :
    (r.track completed (ids new) new).Tracks ids (retained completed ns new) := by
  have hrising := h.rising_append new hnew
  have hsub : (retained completed ns new).Sublist (ns ++ [new]) := retained_sublist completed new
  unfold retained at hsub ⊢
  split
  · rename_i hroom
    rw [h.track_room completed new hroom]
    refine ⟨rfl, hrising, h.getElem?_insert hids new hnew, ?_⟩
    rw [List.length_append, List.length_singleton]
    exact hroom
  · rename_i hfull
    rw [if_neg hfull] at hsub
    rw [h.track_full hids completed new hnew hfull]
    refine ⟨by dsimp only, hrising.sublist hsub, ?_, ?_⟩
    · intro id n
      dsimp only [find?]
      rw [h.getElem?_left hids completed new hnew id n]
    · rw [length_rtake]
      exact Nat.min_le_left _ _

end

theorem retained_congr (f g : Nat → Bool) (known : List Nat) (new : Nat)
    (h : ∀ n ∈ known, f n = g n) : retained f known new = retained g known new := by
  have hfilter : known.filter (fun n => !f n) = known.filter (fun n => !g n) :=
    List.filter_congr fun n hn => congrArg Bool.not (h n hn)
  rw [retained, retained, unsettled, unsettled, hfilter]

theorem retained_after (completed : Nat → Bool) (known : List Nat) (new : Nat)
    (hk : (known ++ [new]).Pairwise (· < ·)) (n : Nat) (hn : n ∈ known) (hc : completed n = false)
    (hgone : n ∉ retained completed known new) :
    (retained completed known new).length = maxTracked ∧
      ∀ m ∈ retained completed known new, n < m ∧ (m = new ∨ completed m = false) := by
  unfold retained at hgone ⊢
  split at hgone
  · exact absurd (List.mem_append_left _ hn) hgone
  · rename_i hfull
    rw [if_neg hfull]
    have hrising := hk.sublist (unsettled_sublist completed new)
    have hmem := (mem_unsettled completed new n).mpr (.inl ⟨hn, hc⟩)
    obtain ⟨hlength, hlast⟩ := rtake_after _ maxTracked hrising n hmem hgone
    refine ⟨hlength, ?_⟩
    intro m hm
    have hm' := (mem_unsettled completed new m).mp ((rtake_sublist _ _).mem hm)
    exact ⟨hlast m hm, hm'.symm.imp_right And.right⟩

theorem le_followers (completed : Nat → Bool) (known : List Nat) (new : Nat)
    (hk : (known ++ [new]).Pairwise (· < ·)) (n : Nat) (hn : n ∈ known) (hc : completed n = false)
    (hgone : n ∉ retained completed known new) :
    maxTracked ≤ ((known ++ [new]).filter fun m =>
      decide (n < m) && (m == new || !completed m)).length := by
  obtain ⟨hlength, hafter⟩ := retained_after completed known new hk n hn hc hgone
  have hfollow : (retained completed known new).filter (fun m =>
      decide (n < m) && (m == new || !completed m)) = retained completed known new := by
    rw [List.filter_eq_self]
    intro m hm
    rw [Bool.and_eq_true, Bool.or_eq_true, beq_iff_eq, decide_eq_true_iff, Bool.not_eq_true']
    exact hafter m hm
  rw [← hlength, ← hfollow]
  exact ((retained_sublist completed new).filter _).length_le

end JobRegistry

open JobRegistry (Tracks retained maxTracked)

section

variable {ids : Nat → JobId} (hids : Function.Injective ids)

structure World.Tracks (ids : Nat → JobId) (w : World) (ns : List Nat) : Prop where
  registry : w.coordinator.registry.Tracks ids ns
  launched : ∀ n ∈ ns, n < w.coordinator.jobs.size

include hids in
theorem Coordinator.tracks_enlist {c : Coordinator} {ns : List Nat} (h : c.registry.Tracks ids ns)
    (hlt : ∀ n ∈ ns, n < c.jobs.size) (job : ResendJob) (source : PacketId)
    (request : OutboundRequest) :
    (c.enlist (ids c.jobs.size) job source request).2.registry.Tracks ids
      (retained c.isFinished ns c.jobs.size) := by
  set pushed : Coordinator :=
    { c with jobs := c.jobs.push (Job.launch (ids c.jobs.size) job request source) } with hpushed
  -- The registry asks after the new job was put in; the known ones are older.
  have hsame : ∀ n ∈ ns, c.isFinished n = pushed.isFinished n := by
    intro n hn
    have hjob : pushed.jobs[n]? = c.jobs[n]? :=
      Array.getElem?_push_lt (hlt n hn) |>.trans (Array.getElem?_eq_getElem (hlt n hn)).symm
    rw [isFinished, isFinished, hjob]
  rw [JobRegistry.retained_congr _ _ ns _ hsame]
  exact h.track hids pushed.isFinished c.jobs.size hlt

include hids in
theorem World.Tracks.step {w : World} {ns : List Nat} (h : w.Tracks ids ns) (e : Event) :
    ((w.step ids e).2.coordinator.registry = w.coordinator.registry ∧
      (w.step ids e).2.coordinator.jobs.size = w.coordinator.jobs.size) ∨
    ((w.step ids e).2.coordinator.jobs.size = w.coordinator.jobs.size + 1 ∧
      (w.step ids e).2.Tracks ids (retained w.coordinator.isFinished ns w.coordinator.jobs.size)) := by
  rcases w.step_known ids e with hsame | ⟨job, source, request, hc⟩
  · exact .inl hsame
  · have hsize : (w.step ids e).2.coordinator.jobs.size = w.coordinator.jobs.size + 1 := by
      rw [hc]
      exact Array.size_push _
    refine .inr ⟨hsize, ?_, ?_⟩
    · rw [hc]
      exact Coordinator.tracks_enlist hids h.registry h.launched job source request
    · intro n hn
      rw [hsize]
      have hmem := (JobRegistry.retained_sublist _ _).mem hn
      rw [List.mem_append, List.mem_singleton] at hmem
      rcases hmem with hn | rfl
      · exact Nat.lt_succ_of_lt (h.launched n hn)
      · exact Nat.lt_succ_self _

include hids in
theorem World.Reachable.tracks {w : World} (hw : w.Reachable ids) :
    w.Tracks ids w.coordinator.registry.numbers := by
  have hex : ∃ ns, w.Tracks ids ns := by
    induction hw with
    | start service size ops hs =>
      refine ⟨[], ?_, by simp⟩
      change service.coordinator.registry.Tracks ids []
      rw [hs]
      exact JobRegistry.tracks_empty ids
    | next w _ e ih =>
      obtain ⟨ns, h⟩ := ih
      rcases h.step hids e with ⟨hr, hn⟩ | ⟨-, h'⟩
      · exact ⟨ns, by rw [hr]; exact h.registry, by rw [hn]; exact h.launched⟩
      · exact ⟨_, h'⟩
  obtain ⟨ns, h⟩ := hex
  rw [h.registry.numbers_eq]
  exact h

end

theorem Coordinator.isFinished_of (c : Coordinator) (n : Nat) (j : Job) (hj : c.jobs[n]? = some j) :
    c.isFinished n = j.isFinished := by
  rw [isFinished, hj]

theorem Coordinator.filter_isFinished (c : Coordinator) (n : Nat)
    (h : ∀ k, k < n → c.isFinished k = false) :
    (List.range n).filter (fun k => !c.isFinished k) = List.range n := by
  rw [List.filter_eq_self]
  intro k hk
  rw [h k (List.mem_range.mp hk), Bool.not_false]

theorem strokes_injective : Function.Injective strokes := by
  intro m n h
  have hlength := congrArg (fun id : JobId => id.toList.length) h
  simpa [strokes] using hlength

def World.asking (w : World) (key : Nat) : World :=
  (w.step strokes (.ask key (.execute (.once 1)))).2

def World.sending (w : World) (key : Nat) : World :=
  ((w.asking key).step strokes (.advance key)).2

/-- Jobs that send the only packet, none of which has begun. -/
def World.crowd : Nat → World
  | 0 => World.start (.over (Store.run (fun _ => 1) [.append (.bare "/") none]).2)
  | n + 1 => (World.crowd n).sending n

def Job.ofCrowd (n : Nat) : Job :=
  Job.launch (strokes n) (.once 1) (.ofRecord ((Draft.bare "/").withId 1)) 1

theorem World.crowd_reachable (n : Nat) : (World.crowd n).Reachable strokes := by
  induction n with
  | zero => exact .start _ _ _ rfl
  | succ n ih => exact .next _ (.next _ ih _) _

structure World.Crowded (w : World) (n : Nat) : Prop where
  store : w.store = (World.crowd 0).store
  size : w.coordinator.jobs.size = n
  jobs : ∀ k, k < n → w.coordinator.jobs[k]? = some (.ofCrowd k)
  calls : ∀ key, n ≤ key → w.calls key = none
  tracks : w.Tracks strokes (List.range n)

section

variable (w : World) (key : Nat) (hcall : w.calls key = none)

include hcall

theorem World.asking_eq :
    w.asking key = w.turn key ⟨.finding (.once 1) true, none, w.coordinator⟩ := by
  simp only [World.asking, World.step, hcall]
  rfl

theorem World.asking_coordinator : (w.asking key).coordinator = w.coordinator := by
  rw [w.asking_eq key hcall]
  rfl

theorem World.sending_eq (hstore : w.store = (World.crowd 0).store) :
    w.sending key = (w.asking key).turn key ⟨.launched .sync w.coordinator.jobs.size, none,
      (w.coordinator.enlist (strokes w.coordinator.jobs.size) (.once 1) 1
        (.ofRecord ((Draft.bare "/").withId 1))).2⟩ := by
  have hcoord := w.asking_coordinator key hcall
  have hlook : (w.asking key).store.look true 1 true = some (.ok ((Draft.bare "/").withId 1)) := by
    rw [show (w.asking key).store = w.store from congrArg Coordinator.store hcoord, hstore]
    rfl
  have hfinding : (w.asking key).calls key = some (.finding (.once 1) true) := by
    rw [w.asking_eq key hcall]
    exact if_pos rfl
  have hlaunch := World.step_launch strokes (w.asking key) key (.once 1) true _ _ hfinding hlook rfl
  rw [hcoord] at hlaunch
  exact hlaunch

theorem World.sending_coordinator (hstore : w.store = (World.crowd 0).store) :
    (w.sending key).coordinator = (w.coordinator.enlist (strokes w.coordinator.jobs.size) (.once 1) 1
      (.ofRecord ((Draft.bare "/").withId 1))).2 := by
  rw [w.sending_eq key hcall hstore]
  rfl

theorem World.sending_size (hstore : w.store = (World.crowd 0).store) :
    (w.sending key).coordinator.jobs.size = w.coordinator.jobs.size + 1 := by
  rw [w.sending_coordinator key hcall hstore]
  exact Array.size_push _

theorem World.sending_calls (hstore : w.store = (World.crowd 0).store) (k : Nat) (hk : k ≠ key) :
    (w.sending key).calls k = w.calls k := by
  rw [w.sending_eq key hcall hstore, World.turn_calls, if_neg hk, w.asking_eq key hcall,
    World.turn_calls, if_neg hk]

end

namespace World.Crowded

variable {w : World} {n : Nat} (h : w.Crowded n)

include h

theorem isFinished_eq (k : Nat) (hk : k < n) : w.coordinator.isFinished k = false := by
  rw [w.coordinator.isFinished_of k _ (h.jobs k hk)]
  rfl

theorem numbers_eq : w.coordinator.registry.numbers = List.range n :=
  h.tracks.registry.numbers_eq

theorem length_order : w.coordinator.registry.order.length = n := by
  rw [h.tracks.registry.order, List.length_map, List.length_range]

theorem sending (hn : n < maxTracked) : (w.sending n).Crowded (n + 1) := by
  have hcall := h.calls n (le_refl n)
  have hcoord := w.sending_coordinator n hcall h.store
  have hsize := w.sending_size n hcall h.store
  rw [h.size] at hsize
  refine ⟨?_, hsize, ?_, ?_, ?_, ?_⟩
  · exact (congrArg Coordinator.store hcoord).trans h.store
  · intro k hk
    rw [hcoord, h.size]
    change (w.coordinator.jobs.push (.ofCrowd n))[k]? = _
    rw [Array.getElem?_push, h.size]
    split
    · rename_i heq
      rw [heq]
    · exact h.jobs k (by omega)
  · intro key hkey
    rw [w.sending_calls n hcall h.store key (by omega)]
    exact h.calls key (by omega)
  · have htracks := Coordinator.tracks_enlist strokes_injective h.tracks.registry h.tracks.launched
      (.once 1) 1 (.ofRecord ((Draft.bare "/").withId 1))
    have hroom : (List.range n).length < maxTracked := by rwa [List.length_range]
    rw [retained, if_pos hroom, h.size, ← List.range_succ] at htracks
    rw [hcoord, h.size]
    exact htracks
  · intro k hk
    exact (List.mem_range.mp hk).trans_eq hsize.symm

end World.Crowded

theorem World.crowd_crowded (n : Nat) (hn : n ≤ maxTracked) : (World.crowd n).Crowded n := by
  induction n with
  | zero =>
    exact ⟨rfl, rfl, fun k hk => absurd hk (Nat.not_lt_zero k), fun _ _ => rfl,
      JobRegistry.tracks_empty strokes, by simp⟩
  | succ n ih => exact (ih (Nat.le_of_succ_le hn)).sending hn

theorem World.exists_crowded : ∃ w : World, w.Reachable strokes ∧ w.Crowded maxTracked :=
  ⟨World.crowd maxTracked, World.crowd_reachable _, World.crowd_crowded _ (le_refl _)⟩

/-- The list of ids and the map of handles of a world say the same about its jobs. -/
structure World.InStep (ids : Nat → JobId) (w : World) : Prop where
  order : w.coordinator.registry.order = w.coordinator.registry.numbers.map ids
  rising : w.coordinator.registry.numbers.Pairwise (· < ·)
  nodup : w.coordinator.registry.order.Nodup
  keys : ∀ id, id ∈ w.coordinator.registry.handles ↔ id ∈ w.coordinator.registry.order
  few : w.coordinator.registry.order.length ≤ maxTracked
  found : ∀ id n, w.coordinator.registry.find? id = some n →
    ∃ j, w.coordinator.jobs[n]? = some j ∧ j.progress.job = id

/-- What the launch of a job leaves of the known ones: all of them if there is room, and else the
last of those not completed. -/
structure World.Renews (ids : Nat → JobId) (w w' : World) : Prop where
  size : w'.coordinator.jobs.size = w.coordinator.jobs.size + 1
  new : w'.coordinator.registry.find? (ids w.coordinator.jobs.size) = some w.coordinator.jobs.size
  room : w.coordinator.registry.order.length + 1 ≤ maxTracked →
    w'.coordinator.registry.order =
      w.coordinator.registry.order ++ [ids w.coordinator.jobs.size]
  full : maxTracked < w.coordinator.registry.order.length + 1 →
    w'.coordinator.registry.numbers =
      (w.coordinator.registry.numbers.filter (fun n => !w.coordinator.isFinished n) ++
        [w.coordinator.jobs.size]).rtake maxTracked
  evicted : ∀ n ∈ w.coordinator.registry.numbers, w.coordinator.isFinished n = false →
    n ∉ w'.coordinator.registry.numbers →
    maxTracked ≤ ((w.coordinator.registry.numbers ++ [w.coordinator.jobs.size]).filter fun m =>
      decide (n < m) && (m == w.coordinator.jobs.size || !w.coordinator.isFinished m)).length

section

variable {ids : Nat → JobId} (hids : Function.Injective ids) {w : World} {ns : List Nat}

include hids in
theorem World.Tracks.inStep {log : List Record} (h : w.Tracks ids ns) (hs : w.Sound ids log) :
    w.InStep ids := by
  have hr := h.registry
  refine ⟨?_, ?_, ?_, hr.mem_handles, ?_, ?_⟩
  · rw [hr.numbers_eq]
    exact hr.order
  · rw [hr.numbers_eq]
    exact hr.rising
  · rw [hr.order]
    exact hr.nodup.map hids
  · rw [hr.order, List.length_map]
    exact hr.few
  · intro id n hn
    obtain ⟨hmem, hid⟩ := (hr.handles id n).mp hn
    have hj := Array.getElem?_eq_getElem (h.launched n hmem)
    exact ⟨_, hj, (hs.jobs n _ hj).id.trans hid⟩

theorem World.Tracks.renews (h : w.Tracks ids ns) {w' : World}
    (hsize : w'.coordinator.jobs.size = w.coordinator.jobs.size + 1)
    (h' : w'.Tracks ids (retained w.coordinator.isFinished ns w.coordinator.jobs.size)) :
    w.Renews ids w' := by
  have hr := h.registry
  have hr' := h'.registry
  have hlength : w.coordinator.registry.order.length = ns.length := by
    rw [hr.order, List.length_map]
  refine ⟨hsize, ?_, ?_, ?_, ?_⟩
  · exact (hr'.handles _ _).mpr ⟨JobRegistry.mem_retained_new _ _, rfl⟩
  · intro hroom
    rw [hlength] at hroom
    rw [hr'.order, retained, if_pos (Nat.lt_of_succ_le hroom), hr.order,
      List.map_append, List.map_singleton]
  · intro hfull
    rw [hlength] at hfull
    rw [hr'.numbers_eq, hr.numbers_eq, retained, if_neg (by omega), JobRegistry.unsettled]
  · intro n hn hc hgone
    rw [hr.numbers_eq] at hn ⊢
    rw [hr'.numbers_eq] at hgone
    exact JobRegistry.le_followers _ _ _ (hr.rising_append _ h.launched) n hn hc hgone

end

/-- **Known jobs after any run.** As long as no two jobs get the same id, in every reachable world the
list of ids is in launch order and has the keys of the map, nothing twice and not too many, and what
an id leads to is the job with that id. Every event leaves this as it is or launches one job, which
is then known; what is left of the others is known exactly. -/
theorem World.known_jobs (ids : Nat → JobId) (hids : Function.Injective ids) (w : World)
    (hw : w.Reachable ids) (e : Event) :
    w.InStep ids ∧
      (((w.step ids e).2.coordinator.registry = w.coordinator.registry ∧
        (w.step ids e).2.coordinator.jobs.size = w.coordinator.jobs.size) ∨
      w.Renews ids (w.step ids e).2) := by
  obtain ⟨log, hs⟩ := hw.sound
  have h := hw.tracks hids
  refine ⟨h.inStep hids hs, ?_⟩
  rcases h.step hids e with hsame | ⟨hsize, h'⟩
  · exact .inl hsame
  · exact .inr (h.renews hsize h')

/-- One more job in a crowd of as many as there is room for: the oldest goes. -/
theorem World.known_jobs_crowd : ∃ w : World, w.Reachable strokes ∧
    w.coordinator.registry.numbers = List.range maxTracked ∧
    (w.step strokes (.advance maxTracked)).2.coordinator.registry.numbers =
      (List.range (maxTracked + 1)).rtake maxTracked := by
  obtain ⟨w, hw, h⟩ := World.exists_crowded
  have hcall := h.calls maxTracked (le_refl _)
  have hcoord := w.asking_coordinator maxTracked hcall
  have hreach : (w.asking maxTracked).Reachable strokes := hw.next _ _
  refine ⟨w.asking maxTracked, hreach, by rw [hcoord, h.numbers_eq], ?_⟩
  obtain ⟨-, ⟨-, hsize⟩ | hrenews⟩ := World.known_jobs strokes strokes_injective _ hreach
    (.advance maxTracked)
  · have hone := w.sending_size maxTracked hcall h.store
    rw [World.sending, hsize, hcoord] at hone
    omega
  · have hlive := w.coordinator.filter_isFinished maxTracked h.isFinished_eq
    have hfull := hrenews.full (by rw [hcoord, h.length_order]; exact Nat.lt_succ_self _)
    rw [hfull, hcoord, h.numbers_eq, h.size, hlive, List.range_succ]

end PacketReplay
