import PacketReplay.Proofs.WorldStep

/-!
# Taking calls out of a run

A call can be taken out of a run, with all its parts, if none of them changes more than where the
call itself stands. The parts of such a call may lie anywhere between those of other calls and the
steps of jobs. Which calls are of that kind is not said here; what is said is how to show it of a
call, from what is known where the call stands.
-/

set_option autoImplicit false

namespace PacketReplay

def Event.key? : Event → Option Nat
  | .ask key _ => some key
  | .advance key => some key
  | _ => none

def Event.isOf (K : Nat → Bool) (e : Event) : Bool :=
  match e.key? with
  | some key => K key
  | none => false

namespace World

variable (ids : Nat → JobId)

def without (K : Nat → Bool) (w : World) : World :=
  { w with calls := fun k => if K k then none else w.calls k }

/-- The parts of a call change nothing all through a run but where the call stands. -/
def Quiet (key : Nat) : World → List Event → Prop
  | _, [] => True
  | w, e :: es =>
    (e.key? = some key → (w.step ids e).2 = { w with calls := (w.step ids e).2.calls }) ∧
      Quiet key (w.step ids e).2 es

def part? (w : World) : Event → Option (Nat × Turn)
  | .ask key a =>
    match w.calls key with
    | none => some (key, w.service.start a)
    | some _ => none
  | .advance key =>
    match w.calls key with
    | none => none
    | some call => some (key, w.service.resume ids call)
  | _ => none

variable (w : World)

/-- A part of a call takes its turn, or does nothing: it is asked again, or goes on unasked. -/
theorem step_part (e : Event) (key : Nat) (hk : e.key? = some key) :
    (w.part? ids e = none ∧ w.step ids e = (none, w)) ∨
      ∃ t, w.part? ids e = some (key, t) ∧ w.step ids e = (t.answer, w.turn key t) := by
  cases e with
  | ask k a =>
    obtain rfl := Option.some.inj hk
    simp only [part?, step]
    cases w.calls k with
    | none => exact .inr ⟨_, rfl, rfl⟩
    | some call => exact .inl ⟨rfl, rfl⟩
  | advance k =>
    obtain rfl := Option.some.inj hk
    simp only [part?, step]
    cases w.calls k with
    | none => exact .inl ⟨rfl, rfl⟩
    | some call => exact .inr ⟨_, rfl, rfl⟩
  | dispatch | receive | mirror | publish | proceed | wake => cases hk

theorem step_jobStep (e : Event) (hk : e.key? = none) :
    (w.step ids e).1 = none ∧ ∃ n, w.JobStep n (w.step ids e).2 := by
  cases e with
  | ask | advance => cases hk
  | dispatch n => exact ⟨rfl, n, w.jobStep_dispatch n⟩
  | receive n reply now refusal => exact ⟨rfl, n, w.jobStep_receive n reply now refusal⟩
  | mirror n => exact ⟨rfl, n, w.jobStep_mirror n⟩
  | publish n => exact ⟨rfl, n, w.jobStep_publish n⟩
  | proceed n elapsedMs => exact ⟨rfl, n, w.jobStep_proceed n elapsedMs⟩
  | wake n => exact ⟨rfl, n, w.jobStep_wake n⟩

theorem JobStep.calls_eq {w w' : World} {n : Nat} (h : w.JobStep n w') : w'.calls = w.calls := by
  cases h <;> rfl

theorem JobStep.size_eq {w w' : World} {n : Nat} (h : w.JobStep n w') :
    w'.coordinator.jobs.size = w.coordinator.jobs.size := by
  cases h with
  | idle => rfl
  | move => exact Array.size_modify

theorem step_calls_ne (e : Event) (key : Nat) (h : e.key? ≠ some key) :
    (w.step ids e).2.calls key = w.calls key := by
  cases hk : e.key? with
  | none =>
    obtain ⟨-, n, hstep⟩ := w.step_jobStep ids e hk
    exact congrFun hstep.calls_eq key
  | some k =>
    have hne : key ≠ k := fun heq => h (hk.trans (congrArg some heq.symm))
    rcases w.step_part ids e k hk with ⟨-, hstep⟩ | ⟨t, -, hstep⟩
    · rw [hstep]
    · rw [hstep]
      exact if_neg hne

/-- A part that leaves the coordinator as it is changes nothing but where its call stands. -/
theorem turn_quiet (key : Nat) (t : Turn) (h : t.coordinator = w.coordinator) :
    w.turn key t = { w with calls := (w.turn key t).calls } := by
  have hs : (w.turn key t).service = w.service := by
    change { w.service with coordinator := t.coordinator } = w.service
    rw [show t.coordinator = w.service.coordinator from h]
  exact congrArg (World.mk · (w.turn key t).calls w.entries) hs

/-- Every part that a run has of a call is of some kind, in the world it comes in. -/
def Turned (key : Nat) (D : World → Turn → Prop) : World → List Event → Prop
  | _, [] => True
  | w, e :: es =>
    (∀ t, w.part? ids e = some (key, t) → D w t) ∧ Turned key D (w.step ids e).2 es

/-- What is known of a call before a run: what may be asked for, or where it stands. -/
def Standing (key : Nat) (A : Ask → Prop) (R : Call → Prop) (w : World) (es : List Event) : Prop :=
  match w.calls key with
  | none => ∀ a, .ask key a ∈ es → A a
  | some call => R call

theorem Standing.none {key : Nat} {A : Ask → Prop} {R : Call → Prop} {es : List Event}
    (hc : w.calls key = .none) (h : ∀ a, .ask key a ∈ es → A a) : w.Standing key A R es := by
  rw [Standing, hc]
  exact h

theorem Standing.some {key : Nat} {A : Ask → Prop} {R : Call → Prop} {es : List Event}
    (call : Call) (hc : w.calls key = .some call) (h : R call) : w.Standing key A R es := by
  rw [Standing, hc]
  exact h

theorem Standing.tail {key : Nat} {A : Ask → Prop} {R : Call → Prop} {e : Event} {es : List Event}
    (h : w.Standing key A R (e :: es)) : w.Standing key A R es := by
  unfold Standing at h ⊢
  split
  · rename_i hc
    rw [hc] at h
    exact fun a ha => h a (List.mem_cons_of_mem e ha)
  · rename_i call hc
    rw [hc] at h
    exact h

section

variable {key : Nat} {A : Ask → Prop} {R : Call → Prop} {C : World → Prop} {D : World → Turn → Prop}
  (hask : ∀ w a, C w → A a → D w (w.service.start a) ∧ R (w.service.start a).call)
  (hadvance : ∀ w call, C w → R call →
    D w (w.service.resume ids call) ∧ R (w.service.resume ids call).call)

include hask hadvance

theorem Standing.part {w : World} {e : Event} {es : List Event} (h : w.Standing key A R (e :: es))
    (hw : C w) (t : Turn) (ht : w.part? ids e = .some (key, t)) : D w t ∧ R t.call := by
  cases e with
  | ask k a =>
    simp only [part?] at ht
    split at ht
    · rename_i hc
      cases ht
      rw [Standing, hc] at h
      exact hask w a hw (h a (by simp))
    · cases ht
  | advance k =>
    simp only [part?] at ht
    split at ht
    · cases ht
    · rename_i call hc
      cases ht
      rw [Standing, hc] at h
      exact hadvance w call hw h
  | dispatch | receive | mirror | publish | proceed | wake => cases ht

theorem Standing.step {w : World} {e : Event} {es : List Event} (h : w.Standing key A R (e :: es))
    (hw : C w) : (w.step ids e).2.Standing key A R es := by
  by_cases hk : e.key? = .some key
  · rcases w.step_part ids e key hk with ⟨-, hs⟩ | ⟨t, ht, hs⟩
    · rw [hs]
      exact h.tail
    · rw [hs]
      exact .some _ t.call (w.turn_calls_self key t) (h.part ids hask hadvance hw t ht).2
  · have htail := h.tail
    unfold Standing at htail ⊢
    rw [w.step_calls_ne ids e key hk]
    exact htail

/-- **All parts of a call are of some kind** if every part is that comes in a world of the run, from
a call that may be asked for or that stands where one of its parts may leave it. -/
theorem turned_of (es : List Event) (w : World)
    (hC : ∀ before, before <+: es → C (World.run ids w before).2) (h : w.Standing key A R es) :
    w.Turned ids key D es := by
  induction es generalizing w with
  | nil => trivial
  | cons e es ih =>
    have hw : C w := hC [] List.nil_prefix
    refine ⟨fun t ht => (h.part ids hask hadvance hw t ht).1, ih _ (fun before hb => ?_) ?_⟩
    · exact hC (e :: before) (List.cons_prefix_cons.mpr ⟨rfl, hb⟩)
    · exact h.step ids hask hadvance hw

end

theorem Turned.quiet {key : Nat} {D : World → Turn → Prop}
    (hD : ∀ w t, D w t → t.coordinator = w.coordinator) (es : List Event) (w : World)
    (h : w.Turned ids key D es) : w.Quiet ids key es := by
  induction es generalizing w with
  | nil => trivial
  | cons e es ih =>
    refine ⟨fun hk => ?_, ih _ h.2⟩
    rcases w.step_part ids e key hk with ⟨-, hs⟩ | ⟨t, ht, hs⟩
    · rw [hs]
    · rw [hs]
      exact w.turn_quiet key t (hD w t (h.1 t ht))

theorem Turned.answer {key : Nat} {D : World → Turn → Prop} (e : Event) (a : Answer)
    (hk : e.key? = .some key) (es : List Event) (w : World) (h : w.Turned ids key D es)
    (he : (e, .some a) ∈ (World.run ids w es).1) : ∃ w' t, D w' t ∧ t.answer = .some a := by
  induction es generalizing w with
  | nil => cases he
  | cons e' es ih =>
    change _ ∈ (e', (w.step ids e').1) :: (World.run ids (w.step ids e').2 es).1 at he
    rcases List.mem_cons.mp he with hhead | htail
    · obtain ⟨rfl, ha⟩ := Prod.mk.inj hhead
      rcases w.step_part ids e key hk with ⟨-, hs⟩ | ⟨t, ht, hs⟩
      · rw [hs] at ha
        cases ha
      · rw [hs] at ha
        exact ⟨w, t, h.1 t ht, ha.symm⟩
    · exact ih _ h.2 htail

variable (K : Nat → Bool)

theorem turn_without (key : Nat) (t : Turn) (hk : K key = false) :
    (w.without K).turn key t = (w.turn key t).without K := by
  have hc : ((w.without K).turn key t).calls = ((w.turn key t).without K).calls := by
    funext k
    change (if k = key then _ else if K k then .none else w.calls k) =
      if K k then .none else if k = key then _ else w.calls k
    by_cases hkk : k = key
    · rw [if_pos hkk, if_pos hkk, hkk, hk]
      rfl
    · rw [if_neg hkk, if_neg hkk]
  exact congrArg (World.mk _ · _) hc

/-- Events of other calls and of jobs do not notice that calls are missing. -/
theorem step_without (e : Event) (h : e.isOf K = false) :
    (w.without K).step ids e = ((w.step ids e).1, (w.step ids e).2.without K) := by
  cases e with
  | ask key a =>
    have hk : K key = false := h
    have hcall : (w.without K).calls key = w.calls key := by simp [without, hk]
    simp only [step, hcall]
    cases w.calls key with
    | none =>
      simp only [w.turn_without K key _ hk]
      rfl
    | some call => rfl
  | advance key =>
    have hk : K key = false := h
    have hcall : (w.without K).calls key = w.calls key := by simp [without, hk]
    simp only [step, hcall]
    cases w.calls key with
    | none => rfl
    | some call =>
      simp only [w.turn_without K key _ hk]
      rfl
  | dispatch n =>
    have hc : (w.without K).coordinator = w.coordinator := rfl
    simp only [step, dispatch, hc]
    cases w.coordinator.jobs[n]? with
    | none => rfl
    | some j =>
      simp only
      split <;> rfl
  | receive n reply now refusal =>
    have hc : (w.without K).coordinator = w.coordinator := rfl
    simp only [step, receive, hc]
    cases w.coordinator.jobs[n]? with
    | none => rfl
    | some j =>
      simp only
      split <;> rfl
  | mirror n => rfl
  | publish n => rfl
  | proceed n elapsedMs => rfl
  | wake n => rfl

theorem step_erased (e : Event) (h : e.isOf K = true)
    (hq : (w.step ids e).2 = { w with calls := (w.step ids e).2.calls }) :
    (w.step ids e).2.without K = w.without K := by
  have hcalls : ((w.step ids e).2.without K).calls = (w.without K).calls := by
    funext k
    change (if K k then .none else (w.step ids e).2.calls k) = if K k then .none else w.calls k
    cases hk : K k with
    | true => rfl
    | false =>
      refine w.step_calls_ne ids e k fun he => ?_
      simp [Event.isOf, he, hk] at h
  rw [hq] at hcalls ⊢
  exact congrArg (World.mk _ · _) hcalls

/-- **Quiet calls can be taken out of a run.** -/
theorem run_without (es : List Event) (w : World) (h : ∀ k, K k = true → w.Quiet ids k es) :
    World.run ids (w.without K) (es.filter fun e => !e.isOf K) =
      ((World.run ids w es).1.filter fun p => !p.1.isOf K, (World.run ids w es).2.without K) := by
  induction es generalizing w with
  | nil => rfl
  | cons e es ih =>
    have htail := ih (w.step ids e).2 fun k hk => (h k hk).2
    change _ = (List.filter _ ((e, (w.step ids e).1) :: (World.run ids (w.step ids e).2 es).1),
      (World.run ids (w.step ids e).2 es).2.without K)
    cases he : e.isOf K with
    | false =>
      have hstep := w.step_without ids K e he
      rw [List.filter_cons_of_pos (by simp [he]), List.filter_cons_of_pos (by simp [he])]
      change ((e, ((w.without K).step ids e).1) ::
        (World.run ids ((w.without K).step ids e).2 (es.filter fun e => !e.isOf K)).1,
        (World.run ids ((w.without K).step ids e).2 (es.filter fun e => !e.isOf K)).2) = _
      rw [hstep]
      change ((e, (w.step ids e).1) ::
        (World.run ids ((w.step ids e).2.without K) (es.filter fun e => !e.isOf K)).1,
        (World.run ids ((w.step ids e).2.without K) (es.filter fun e => !e.isOf K)).2) = _
      rw [htail]
    | true =>
      rw [List.filter_cons_of_neg (by simp [he]), List.filter_cons_of_neg (by simp [he]), ← htail]
      have hquiet : (w.step ids e).2.without K = w.without K := by
        cases hk : e.key? with
        | none => simp [Event.isOf, hk] at he
        | some key =>
          have hkey : K key = true := by simpa [Event.isOf, hk] using he
          exact w.step_erased ids K e (by simp [Event.isOf, hk, hkey]) ((h key hkey).1 hk)
      rw [hquiet]

end World

end PacketReplay
