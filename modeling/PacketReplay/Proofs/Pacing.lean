import Mathlib.Data.List.Chain
import PacketReplay.Proofs.ProgressOrder

set_option autoImplicit false

namespace PacketReplay

def Progress.counted (p : Progress) : Nat :=
  p.sentCount.toNat + p.failedCount.toNat

/-- What a job is seen to do. -/
inductive Mark where
  | sent (attempt : Nat)
  | shown (what : Attempted) (counted : Nat)
  | paused (ms : UInt64)
  | woke
  | ended
deriving DecidableEq

/-- What is seen when a job becomes another. -/
def Job.mark? (j j' : Job) : Option Mark :=
  match j.phase, j'.phase with
  | .ready a, .sending _ => some (.sent a)
  | .judged _ what, .published _ => some (.shown what j'.progress.counted)
  | .published _, .pausing _ ms => some (.paused ms)
  | .pausing _ _, .ready _ => some .woke
  | .published _, .finished => some .ended
  | _, _ => none

theorem Job.mark?_self (j : Job) : j.mark? j = none := by
  unfold mark?
  cases j.phase <;> rfl

namespace World

def mark? (n : Nat) (w w' : World) : Option Mark :=
  match w.coordinator.jobs[n]?, w'.coordinator.jobs[n]? with
  | some j, some j' => j.mark? j'
  | _, _ => none

/-- What is seen of the job with a number in a run of events, and when. -/
def marks (ids : Nat → JobId) (n : Nat) : World → List (Nat × Event) → List (Nat × Mark)
  | _, [] => []
  | w, (atMs, e) :: rest =>
    let w' := (w.step ids e).2
    (mark? n w w').toList.map (fun m => (atMs, m)) ++ marks ids n w' rest

end World

def breather (intervalMs : UInt64) : List Mark :=
  if intervalMs = 0 then [] else [.paused intervalMs, .woke]

/-- What is seen of attempts, numbered from a first one, that all have another after them. -/
def rounds (intervalMs : UInt64) : Nat → List Attempted → List Mark
  | _, [] => []
  | first, what :: rest =>
    .sent first :: .shown what first ::
      (breather intervalMs ++ rounds intervalMs (first + 1) rest)

def lastRound (attempt : Nat) (what : Attempted) : List Mark :=
  [.sent attempt, .shown what attempt, .ended]

/-- What is seen of a job that ends, given what came of its attempts. -/
def pacing (intervalMs : UInt64) (outcomes : List Attempted) (last : Attempted) : List Mark :=
  rounds intervalMs 1 outcomes ++ lastRound (1 + outcomes.length) last

section

variable (intervalMs : UInt64)

theorem breather_zero : breather 0 = [] := rfl

theorem breather_of_ne (h : intervalMs ≠ 0) : breather intervalMs = [.paused intervalMs, .woke] :=
  if_neg h

theorem rounds_concat (first : Nat) (outcomes : List Attempted) (what : Attempted) :
    rounds intervalMs first (outcomes ++ [what]) = rounds intervalMs first outcomes ++
      [.sent (first + outcomes.length), .shown what (first + outcomes.length)] ++
      breather intervalMs := by
  induction outcomes generalizing first with
  | nil => simp [rounds]
  | cons x rest ih =>
    have hnext : first + 1 + rest.length = first + (x :: rest).length := by
      rw [List.length_cons]
      omega
    rw [List.cons_append, rounds, ih, hnext, rounds]
    simp only [List.cons_append, List.append_assoc]

end

/-- How far a job is, with how many attempts it has counted and what was seen of it. What came of
the attempts before the current one is not restricted. -/
inductive Phase.Paced (count : Nat) (intervalMs : UInt64) : Phase → Nat → List Mark → Prop where
  | ready (outcomes : List Attempted) (h : outcomes.length < count) :
    Paced count intervalMs (.ready (1 + outcomes.length)) outcomes.length
      (rounds intervalMs 1 outcomes)
  | sending (outcomes : List Attempted) (h : outcomes.length < count) :
    Paced count intervalMs (.sending (1 + outcomes.length)) outcomes.length
      (rounds intervalMs 1 outcomes ++ [.sent (1 + outcomes.length)])
  | keeping (outcomes : List Attempted) (h : outcomes.length < count) (r : Record) :
    Paced count intervalMs (.keeping (1 + outcomes.length) r) outcomes.length
      (rounds intervalMs 1 outcomes ++ [.sent (1 + outcomes.length)])
  | judged (outcomes : List Attempted) (h : outcomes.length < count) (what : Attempted) :
    Paced count intervalMs (.judged (1 + outcomes.length) what) outcomes.length
      (rounds intervalMs 1 outcomes ++ [.sent (1 + outcomes.length)])
  | published (outcomes : List Attempted) (h : outcomes.length < count) (what : Attempted) :
    Paced count intervalMs (.published (1 + outcomes.length)) (1 + outcomes.length)
      (rounds intervalMs 1 outcomes ++
        [.sent (1 + outcomes.length), .shown what (1 + outcomes.length)])
  | pausing (outcomes : List Attempted) (h : 1 + outcomes.length < count) (what : Attempted)
    (hi : intervalMs ≠ 0) :
    Paced count intervalMs (.pausing (1 + outcomes.length) intervalMs) (1 + outcomes.length)
      (rounds intervalMs 1 outcomes ++
        [.sent (1 + outcomes.length), .shown what (1 + outcomes.length), .paused intervalMs])
  | finished (outcomes : List Attempted) (h : 1 + outcomes.length = count) (last : Attempted) :
    Paced count intervalMs .finished count (pacing intervalMs outcomes last)
  | dead (counted : Nat) (seen : List Mark) : Paced count intervalMs .dead counted seen

theorem Phase.Paced.of_finished {count counted : Nat} {intervalMs : UInt64} {seen : List Mark}
    (h : Phase.finished.Paced count intervalMs counted seen) :
    ∃ outcomes last, 1 + outcomes.length = count ∧ seen = pacing intervalMs outcomes last := by
  cases h
  exact ⟨_, _, ‹_›, rfl⟩

def Job.Paced (j : Job) (seen : List Mark) : Prop :=
  ∃ counted, counted = j.progress.packetIds.length + j.failures.length ∧
    j.phase.Paced j.count.toNat j.intervalMs counted seen

theorem Job.paced_launch (id : JobId) (job : ResendJob) (hcount : job.count ≠ 0)
    (request : OutboundRequest) (source : PacketId) :
    (Job.launch id job request source).Paced [] := by
  have hpos : job.count.toNat ≠ 0 := fun h => hcount (UInt32.toNat_inj.mp h)
  exact ⟨0, rfl, .ready [] (Nat.pos_of_ne_zero hpos)⟩

/-- A pace goes on with the next attempt once what lies between the two has been seen. -/
theorem Phase.Paced.again (count : Nat) (intervalMs : UInt64) (outcomes : List Attempted)
    (h : 1 + outcomes.length < count) (what : Attempted) :
    (Phase.ready (1 + outcomes.length + 1)).Paced count intervalMs (1 + outcomes.length)
      (rounds intervalMs 1 outcomes ++
        [.sent (1 + outcomes.length), .shown what (1 + outcomes.length)] ++
        breather intervalMs) := by
  have hlength : (outcomes ++ [what]).length = 1 + outcomes.length := by
    rw [List.length_append, List.length_singleton, Nat.add_comm]
  have hready : (Phase.ready (1 + (outcomes ++ [what]).length)).Paced count intervalMs
      (outcomes ++ [what]).length (rounds intervalMs 1 (outcomes ++ [what])) :=
    .ready _ (by omega)
  rwa [hlength, rounds_concat, Nat.add_comm 1 (1 + outcomes.length)] at hready

theorem Job.tally_counted (j : Job) (a : Nat) (what : Attempted)
    (h : j.progress.packetIds.length + j.failures.length < j.count.toNat) :
    (j.tally a what).progress.packetIds.length + (j.tally a what).failures.length =
        1 + (j.progress.packetIds.length + j.failures.length) ∧
      (j.tally a what).progress.counted =
        1 + (j.progress.packetIds.length + j.failures.length) := by
  have hcounted (ids failures : Nat) (hle : ids + failures ≤ j.count.toNat) :
      ids.toUInt32.toNat + failures.toUInt32.toNat = ids + failures := by
    rw [toNat_toUInt32_of_le ids j.count (by omega),
      toNat_toUInt32_of_le failures j.count (by omega)]
  cases what with
  | stored id =>
    have hids : (j.progress.packetIds ++ [id]).length = j.progress.packetIds.length + 1 := by simp
    refine ⟨?_, ?_⟩
    · change (j.progress.packetIds ++ [id]).length + j.failures.length = _
      omega
    · change (j.progress.packetIds ++ [id]).length.toUInt32.toNat +
        j.failures.length.toUInt32.toNat = _
      rw [hcounted _ _ (by omega)]
      omega
  | failed message =>
    have hfailures : (j.failures ++ [(⟨a.toUInt32, message⟩ : Failure)]).length =
        j.failures.length + 1 := by simp
    refine ⟨?_, ?_⟩
    · change j.progress.packetIds.length +
        (j.failures ++ [(⟨a.toUInt32, message⟩ : Failure)]).length = _
      omega
    · change j.progress.packetIds.length.toUInt32.toNat +
        (j.failures ++ [(⟨a.toUInt32, message⟩ : Failure)]).length.toUInt32.toNat = _
      rw [hcounted _ _ (by omega)]
      omega

section

variable {j j' : Job} {seen : List Mark}

theorem Job.Paced.unseen (h : j'.Paced seen) (hmark : j.mark? j' = none) :
    j'.Paced (seen ++ (j.mark? j').toList) := by
  rwa [hmark, Option.toList_none, List.append_nil]

theorem Job.Paced.marked (m : Mark) (h : j'.Paced (seen ++ [m])) (hmark : j.mark? j' = some m) :
    j'.Paced (seen ++ (j.mark? j').toList) := by
  rwa [hmark, Option.toList_some]

/-- **Every move keeps the pace.** -/
theorem Job.Move.paced {n : Nat} {s s' : Store} {es : List Entry} (hm : Job.Move n s j s' j' es)
    (h : j.Paced seen) : j'.Paced (seen ++ (j.mark? j').toList) := by
  obtain ⟨counted, hc, hat⟩ := h
  -- A published attempt is followed by a pause or by the next attempt as the interval says, so what
  -- was seen before the next attempt is whole rounds in either case.
  cases hm with
  | dispatch a hp =>
    rw [hp] at hat
    cases hat with | ready outcomes h
    exact .marked (.sent _) ⟨_, hc, .sending outcomes h⟩ (by simp [mark?, hp])
  | fail a hp message =>
    rw [hp] at hat
    cases hat with | sending outcomes h
    exact .unseen ⟨_, hc, .judged outcomes h _⟩ (by simp [mark?, judge, hp])
  | drop a hp response e =>
    rw [hp] at hat
    cases hat with | sending outcomes h
    exact .unseen ⟨_, hc, .judged outcomes h _⟩ (by simp [mark?, judge, hp])
  | keep a hp response now r =>
    rw [hp] at hat
    cases hat with | sending outcomes h
    exact .unseen ⟨_, hc, .keeping outcomes h r⟩ (by simp [mark?, hp])
  | die a hp => exact ⟨_, hc, .dead _ _⟩
  | mirror a r hp =>
    rw [hp] at hat
    cases hat with | keeping outcomes h
    exact .unseen ⟨_, hc, .judged outcomes h _⟩ (by simp [mark?, judge, hp])
  | publish a what hp =>
    rw [hp] at hat
    cases hat with | judged outcomes h
    obtain ⟨hcounted, hshown⟩ := j.tally_counted (1 + outcomes.length) what (by omega)
    rw [← hc] at hcounted hshown
    refine .marked (.shown what (1 + outcomes.length)) ⟨_, hcounted.symm, ?_⟩
      (by simp [mark?, hp, hshown])
    rw [List.append_assoc]
    exact .published outcomes h what
  | next a hp hlt hi =>
    rw [hp] at hat
    cases hat with | published outcomes h what
    have hagain := Phase.Paced.again _ j.intervalMs outcomes hlt what
    rw [hi, breather_zero, List.append_nil, ← hi] at hagain
    exact .unseen ⟨_, hc, hagain⟩ (by simp [mark?, hp])
  | pause a hp hlt hi =>
    rw [hp] at hat
    cases hat with | published outcomes h what
    refine .marked (.paused j.intervalMs) ⟨_, hc, ?_⟩ (by simp [mark?, hp])
    rw [List.append_assoc]
    exact .pausing outcomes hlt what hi
  | finish a hp hle elapsedMs =>
    rw [hp] at hat
    cases hat with | published outcomes h what
    have hend : 1 + outcomes.length = j.count.toNat := by omega
    refine .marked .ended ⟨_, hend.symm.trans hc, ?_⟩ (by simp [mark?, Job.finish, hp])
    rw [List.append_assoc]
    exact .finished outcomes hend what
  | wake a ms hp =>
    rw [hp] at hat
    cases hat with | pausing outcomes h what hi
    have hagain := Phase.Paced.again _ j.intervalMs outcomes h what
    rw [breather_of_ne _ hi, List.append_assoc] at hagain
    refine .marked .woke ⟨_, hc, ?_⟩ (by simp [mark?, hp])
    rw [List.append_assoc]
    exact hagain

theorem Job.Move.intervalMs_eq {n : Nat} {s s' : Store} {es : List Entry}
    (hm : Job.Move n s j s' j' es) : j'.intervalMs = j.intervalMs := by
  cases hm <;> rfl

end

section

variable (ids : Nat → JobId) (n : Nat)

theorem World.step_paced (w : World) (e : Event) (j : Job) (seen : List Mark)
    (hj : w.coordinator.jobs[n]? = some j) (h : j.Paced seen) :
    ∃ j', (w.step ids e).2.coordinator.jobs[n]? = some j' ∧ j.Kept j' ∧
      j'.intervalMs = j.intervalMs ∧
      j'.Paced (seen ++ (mark? n w (w.step ids e).2).toList) := by
  obtain ⟨j', hj', hmove⟩ := w.step_job ids e n j hj
  have hmark : mark? n w (w.step ids e).2 = j.mark? j' := by
    simp only [mark?, hj, hj']
  rw [hmark]
  refine ⟨j', hj', ?_⟩
  rcases hmove with rfl | ⟨s, es, hm⟩
  · exact ⟨.refl j', rfl, h.unseen j'.mark?_self⟩
  · exact ⟨hm.kept, hm.intervalMs_eq, hm.paced h⟩

theorem World.run_paced (events : List (Nat × Event)) (w : World) (j : Job) (seen : List Mark)
    (hj : w.coordinator.jobs[n]? = some j) (h : j.Paced seen) :
    ∃ j', (World.run ids w (events.map Prod.snd)).2.coordinator.jobs[n]? = some j' ∧ j.Kept j' ∧
      j'.intervalMs = j.intervalMs ∧
      j'.Paced (seen ++ (World.marks ids n w events).map Prod.snd) := by
  induction events generalizing w j seen with
  | nil =>
    refine ⟨j, hj, .refl j, rfl, ?_⟩
    rwa [marks, List.map_nil, List.append_nil]
  | cons p rest ih =>
    obtain ⟨atMs, e⟩ := p
    obtain ⟨j₁, hj₁, hk₁, hi₁, h₁⟩ := World.step_paced ids n w e j seen hj h
    obtain ⟨j₂, hj₂, hk₂, hi₂, h₂⟩ := ih (w.step ids e).2 j₁ _ hj₁ h₁
    have hmarks : (marks ids n w ((atMs, e) :: rest)).map Prod.snd =
        (mark? n w (w.step ids e).2).toList ++
          (marks ids n (w.step ids e).2 rest).map Prod.snd := by
      rw [marks, List.map_append, List.map_map]
      exact congrArg (· ++ _) (List.map_id _)
    refine ⟨j₂, hj₂, hk₁.trans hk₂, hi₂.trans hi₁, ?_⟩
    rwa [hmarks, ← List.append_assoc]

end

/-- How long it takes at least until the next mark. -/
def Mark.lasts : Mark → Nat
  | .paused ms => ms.toNat
  | _ => 0

def Mark.pause? : Mark → Option UInt64
  | .paused ms => some ms
  | _ => none

def sendTimes (marks : List (Nat × Mark)) : List Nat :=
  marks.filterMap fun p =>
    match p.2 with
    | .sent _ => some p.1
    | _ => none

/-- Moments are as far apart as the marks between them last, in the sense of a relation. -/
def Clocked (le : Nat → Nat → Prop) (marks : List (Nat × Mark)) : Prop :=
  marks.IsChain fun a b => le (a.1 + a.2.lasts) b.1

/-- Time does not go back, and no pause is shorter than asked for. -/
abbrev OnTime (marks : List (Nat × Mark)) : Prop :=
  Clocked (· ≤ ·) marks

/-- Nothing but pauses takes time, and they are as long as asked for. -/
abbrev Prompt (marks : List (Nat × Mark)) : Prop :=
  Clocked (· = ·) marks

theorem pauses_rounds (intervalMs : UInt64) (first : Nat) (outcomes : List Attempted) :
    (rounds intervalMs first outcomes).filterMap Mark.pause? =
      List.replicate (if intervalMs = 0 then 0 else outcomes.length) intervalMs := by
  induction outcomes generalizing first with
  | nil => simp [rounds]
  | cons what rest ih =>
    rw [rounds, List.filterMap_cons_none rfl, List.filterMap_cons_none rfl,
      List.filterMap_append, ih]
    by_cases hi : intervalMs = 0
    · simp [breather, hi]
    · rw [breather_of_ne _ hi, if_neg hi, if_neg hi]
      rfl

theorem pauses_pacing (intervalMs : UInt64) (outcomes : List Attempted) (last : Attempted) :
    (pacing intervalMs outcomes last).filterMap Mark.pause? =
      List.replicate (if intervalMs = 0 then 0 else outcomes.length) intervalMs := by
  rw [pacing, List.filterMap_append, pauses_rounds]
  exact List.append_nil _

section

variable (le : Nat → Nat → Prop) (htrans : ∀ a b c, le a b → le b c → le a c)
  (hadd : ∀ a b d, le a b → le (a + d) (b + d)) (intervalMs : UInt64)

include htrans hadd

/-- What lies between two attempts takes the interval, and sends nothing. -/
theorem breather_takes (t : Nat) (marks : List (Nat × Mark)) (tail : List Mark)
    (hmarks : marks.map Prod.snd = breather intervalMs ++ tail) (hclock : Clocked le marks)
    (hfrom : ∀ p ∈ marks.head?, le t p.1) :
    ∃ rest, rest.map Prod.snd = tail ∧ sendTimes marks = sendTimes rest ∧ Clocked le rest ∧
      ∀ p ∈ rest.head?, le (t + intervalMs.toNat) p.1 := by
  by_cases hi : intervalMs = 0
  · subst hi
    exact ⟨marks, hmarks, rfl, hclock, hfrom⟩
  · rw [breather_of_ne _ hi] at hmarks
    obtain ⟨⟨t₁, _⟩, marks₁, rfl, rfl, hmarks₁⟩ := List.map_eq_cons_iff.mp hmarks
    obtain ⟨⟨t₂, _⟩, rest, rfl, rfl, hrest⟩ := List.map_eq_cons_iff.mp hmarks₁
    obtain ⟨hpause, hclock₁⟩ := List.isChain_cons_cons.mp hclock
    obtain ⟨hwoke, hclock₂⟩ := List.isChain_cons.mp hclock₁
    refine ⟨rest, hrest, rfl, hclock₂, ?_⟩
    intro p hp
    have hstart : le (t + intervalMs.toNat) (t₁ + intervalMs.toNat) :=
      hadd t t₁ _ (hfrom _ rfl)
    exact htrans _ _ _ (htrans _ _ _ hstart hpause) (hwoke p hp)

theorem sendTimes_spaced (outcomes : List Attempted) (first : Nat) (last : Attempted)
    (marks : List (Nat × Mark))
    (hmarks : marks.map Prod.snd =
      rounds intervalMs first outcomes ++ lastRound (first + outcomes.length) last)
    (hclock : Clocked le marks) :
    (sendTimes marks).IsChain (fun s t => le (s + intervalMs.toNat) t) ∧
      (sendTimes marks).head? = marks.head?.map Prod.fst ∧
      (sendTimes marks).length = outcomes.length + 1 := by
  induction outcomes generalizing first marks with
  | nil =>
    obtain ⟨⟨t, _⟩, marks₁, rfl, rfl, hmarks₁⟩ := List.map_eq_cons_iff.mp hmarks
    obtain ⟨⟨t₁, _⟩, marks₂, rfl, rfl, hmarks₂⟩ := List.map_eq_cons_iff.mp hmarks₁
    obtain ⟨⟨t₂, _⟩, marks₃, rfl, rfl, hmarks₃⟩ := List.map_eq_cons_iff.mp hmarks₂
    obtain rfl := List.map_eq_nil_iff.mp hmarks₃
    exact ⟨.singleton t, rfl, rfl⟩
  | cons what others ih =>
    obtain ⟨⟨t, _⟩, marks₁, rfl, rfl, hmarks₁⟩ := List.map_eq_cons_iff.mp hmarks
    obtain ⟨⟨t₁, _⟩, marks₂, rfl, rfl, hmarks₂⟩ := List.map_eq_cons_iff.mp hmarks₁
    rw [List.append_eq, List.append_assoc] at hmarks₂
    obtain ⟨hsend, hclock₁⟩ := List.isChain_cons_cons.mp hclock
    obtain ⟨hshown, hclock₂⟩ := List.isChain_cons.mp hclock₁
    obtain ⟨rest, hrest, hsame, hclock₃, hgap⟩ :=
      breather_takes le htrans hadd intervalMs t marks₂ _ hmarks₂ hclock₂
        fun p hp => htrans _ _ _ hsend (hshown p hp)
    obtain ⟨hchain, hhead, hlength⟩ := ih (first + 1) rest
      (by rw [hrest, List.length_cons, Nat.add_right_comm, Nat.add_assoc]) hclock₃
    have htimes : sendTimes ((t, .sent first) :: (t₁, .shown what first) :: marks₂) =
        t :: sendTimes rest := by
      rw [← hsame]
      rfl
    rw [htimes]
    refine ⟨List.isChain_cons.mpr ⟨?_, hchain⟩, rfl, ?_⟩
    · intro s hs
      rw [hhead] at hs
      obtain ⟨p, hp, rfl⟩ := Option.map_eq_some_iff.mp hs
      exact hgap p hp
    · rw [List.length_cons, List.length_cons, hlength]

end

theorem eq_map_range_of_isChain (d t : Nat) (ts : List Nat)
    (h : (t :: ts).IsChain fun s u => s + d = u) :
    t :: ts = (List.range (ts.length + 1)).map fun k => t + k * d := by
  induction ts generalizing t with
  | nil => simp
  | cons u us ih =>
    obtain ⟨rfl, hrest⟩ := List.isChain_cons_cons.mp h
    rw [List.length_cons, List.range_succ_eq_map, List.map_cons, List.map_map, ih _ hrest,
      Nat.zero_mul, Nat.add_zero]
    congr 1
    apply List.map_congr_left
    intro k _
    change t + d + k * d = t + (k + 1) * d
    rw [Nat.add_mul, Nat.one_mul]
    omega

theorem times_of_pacing (intervalMs : UInt64) (outcomes : List Attempted) (last : Attempted)
    (marks : List (Nat × Mark)) (hseen : marks.map Prod.snd = pacing intervalMs outcomes last) :
    (sendTimes marks).length = outcomes.length + 1 ∧
      (OnTime marks → (sendTimes marks).IsChain fun s t => s + intervalMs.toNat ≤ t) ∧
      (Prompt marks → ∃ start, sendTimes marks =
        (List.range (outcomes.length + 1)).map fun k => start + k * intervalMs.toNat) := by
  have hspaced := fun le htrans hadd =>
    sendTimes_spaced le htrans hadd intervalMs outcomes 1 last marks hseen
  have hany : Clocked (fun _ _ => True) marks :=
    (List.pairwise_of_forall fun _ _ => trivial).isChain
  obtain ⟨-, -, hsends⟩ :=
    hspaced (fun _ _ => True) (fun _ _ _ _ _ => trivial) (fun _ _ _ _ => trivial) hany
  refine ⟨hsends, fun hclock => ?_, fun hclock => ?_⟩
  · exact (hspaced (· ≤ ·) (fun _ _ _ => Nat.le_trans)
      (fun _ _ _ hab => Nat.add_le_add_right hab _) hclock).1
  · obtain ⟨hchain, -, -⟩ :=
      hspaced (· = ·) (fun _ _ _ => Eq.trans) (fun _ _ _ hab => by rw [hab]) hclock
    cases htimes : sendTimes marks with
    | nil => simp [htimes] at hsends
    | cons start later =>
      rw [htimes] at hchain hsends
      exact ⟨start, hsends ▸ eq_map_range_of_isChain intervalMs.toNat start later hchain⟩

/-- **Attempts are paced.** From any reachable world, let a call that has found its packet launch a
job, and let any events follow, each at a moment, after which the job has ended. Whatever came of
its attempts, it was seen to send them one by one, to show what came of each before anything else,
and to pause for the interval after each but the last, or not at all if the interval is zero. So on
a clock that keeps the pauses no attempt is sent earlier than an interval after the one before, and
on one where nothing else takes time they are sent exactly so. -/
theorem World.attempts_are_paced (ids : Nat → JobId) (w₀ : World) (h₀ : w₀.Reachable ids)
    (key : Nat) (job : ResendJob) (inMemory : Bool) (source edited : Record)
    (hcall : w₀.calls key = some (.finding job inMemory))
    (hsource : w₀.store.look inMemory job.source true = some (.ok source))
    (hrules : applyRules source job.rules job.policy = .ok edited) (events : List (Nat × Event))
    (j : Job)
    (hj : (World.run ids w₀ (.advance key :: events.map Prod.snd)).2.coordinator.jobs[
      w₀.coordinator.jobs.size]? = some j)
    (hend : j.phase = .finished) :
    let w₁ := (w₀.step ids (.advance key)).2
    let marks := World.marks ids w₀.coordinator.jobs.size w₁ events
    let count := job.count.toNat
    let interval := job.intervalMs
    ∃ outcomes last, outcomes.length + 1 = count ∧
      marks.map Prod.snd = pacing interval outcomes last ∧
      marks.filterMap (fun p => p.2.pause?) =
        List.replicate (if interval = 0 then 0 else count - 1) interval ∧
      (sendTimes marks).length = count ∧
      (OnTime marks → (sendTimes marks).IsChain fun s t => s + interval.toNat ≤ t) ∧
      (Prompt marks → ∃ start, sendTimes marks =
        (List.range count).map fun k => start + k * interval.toNat) := by
  intro w₁ marks count interval
  obtain ⟨log, hs⟩ := h₀.sound
  obtain ⟨-, hj₁⟩ := hs.launched key job inMemory source edited hcall hsource hrules
  have hpaced := Job.paced_launch (ids w₀.coordinator.jobs.size) job
    (hs.finding key job inMemory hcall) (.ofRecord edited) source.id
  obtain ⟨j', hj', hkept, hinterval, counted, -, hat⟩ :=
    World.run_paced ids _ events w₁ _ [] hj₁ hpaced
  obtain rfl : j' = j := Option.some.inj (hj'.symm.trans hj)
  have hcount : j'.count = job.count := hkept.count
  have hsame : j'.intervalMs = interval := hinterval
  rw [hend, hcount, hsame, List.nil_append] at hat
  obtain ⟨outcomes, last, hlength, hseen⟩ := hat.of_finished
  change marks.map Prod.snd = _ at hseen
  have hothers : outcomes.length + 1 = count := (Nat.add_comm _ _).trans hlength
  obtain ⟨hsends, honTime, hprompt⟩ := times_of_pacing interval outcomes last marks hseen
  rw [hothers] at hsends hprompt
  refine ⟨outcomes, last, hothers, hseen, ?_, hsends, honTime, hprompt⟩
  have hpauses := pauses_pacing interval outcomes last
  rw [← hseen, List.filterMap_map] at hpauses
  rwa [Nat.eq_sub_of_add_eq hothers] at hpauses

def World.unhurried : World :=
  ((World.start (.over (Store.run (fun _ => 1) [.append (.bare "/") none]).2)).step strokes
    (.ask 0 (.execute { ResendJob.once 1 with count := 2, intervalMs := 5 }))).2

def Event.unhurried : List (Nat × Event) :=
  [(7, .dispatch 0), (7, .receive 0 (.delivery (.failed "lost")) .epoch none), (7, .publish 0),
    (7, .proceed 0 0), (12, .wake 0), (12, .dispatch 0),
    (12, .receive 0 (.delivery (.delivered ⟨200, [], []⟩)) .epoch none), (12, .mirror 0),
    (12, .publish 0), (12, .proceed 0 5)]

theorem World.attempts_are_paced_unhurried :
    let marks := World.marks strokes 0 (World.unhurried.step strokes (.advance 0)).2 Event.unhurried
    marks.map Prod.snd = pacing 5 [.failed "lost"] (.stored 2) ∧ Prompt marks ∧
      marks.filterMap (fun p => p.2.pause?) = [5] ∧ sendTimes marks = [7, 12] ∧
      ∃ start, sendTimes marks = (List.range 2).map fun k => start + k * 5 := by
  intro marks
  have hreach : World.unhurried.Reachable strokes :=
    .next _ (.start _ (fun _ => 1) [.append (.bare "/") none] rfl) _
  have hmarks : marks = [(7, .sent 1), (7, .shown (.failed "lost") 1), (7, .paused 5), (12, .woke),
      (12, .sent 2), (12, .shown (.stored 2) 2), (12, .ended)] := rfl
  have hprompt : Prompt marks := by
    rw [hmarks]
    simp [Clocked, Mark.lasts]
  obtain ⟨outcomes, last, -, -, hpauses, -, -, hexact⟩ :=
    World.attempts_are_paced strokes World.unhurried hreach 0
      { ResendJob.once 1 with count := 2, intervalMs := 5 } true ((Draft.bare "/").withId 1)
      ((Draft.bare "/").withId 1) rfl rfl rfl Event.unhurried _ rfl rfl
  exact ⟨by rw [hmarks]; rfl, hprompt, hpauses, by rw [hmarks]; rfl, hexact hprompt⟩

end PacketReplay
