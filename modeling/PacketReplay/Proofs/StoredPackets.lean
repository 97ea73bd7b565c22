import PacketReplay.Proofs.HiddenBodies
import PacketReplay.Proofs.Paging
import PacketReplay.Proofs.ProgressOrder

set_option autoImplicit false

namespace PacketReplay

def Store.Readable (s : Store) : Prop :=
  ∀ t, s.table = some t → ∀ row ∈ t.rows, ∃ r, row.record true = .ok r

theorem toBool_iff {ε α : Type} (e : Except ε α) : e.toBool = true ↔ ∃ a, e = .ok a := by
  cases e <;> simp [Except.toBool]

instance (s : Store) : Decidable s.Readable :=
  decidable_of_iff (∀ t ∈ s.table, ∀ row ∈ t.rows, (row.record true).toBool = true) (by
    simp only [Store.Readable, Option.mem_def, toBool_iff])

def Store.Stores (s : Store) (r : Record) : Prop :=
  ∃ t, s.table = some t ∧ ∃ row ∈ t.rows, row.record true = .ok r

instance (s : Store) (r : Record) : Decidable (s.Stores r) :=
  decidable_of_iff (∃ t ∈ s.table, ∃ row ∈ t.rows, row.record true = .ok r) Iff.rfl

/-- A store holds a log of records whose times have been cut. -/
structure Store.Archives (s : Store) (log : List Record) : Prop where
  holds : s.Holds log
  cut : ∀ r ∈ log, r.toDraft.cut = r.toDraft

namespace Store.Archives

variable {s : Store} {log : List Record} (h : s.Archives log)

include h

theorem whole (hread : s.Readable) : ∀ r ∈ log, r.toDraft.Whole := by
  obtain ⟨t, ht, hl⟩ := h.holds.table
  intro r hr
  obtain ⟨q, hq⟩ := hread t ht r.row (by rw [hl.rows]; exact List.mem_map_of_mem hr)
  exact (r.of_record_row (h.cut r hr) q hq).1

theorem mem_of_stores (r : Record) (hr : s.Stores r) : r ∈ log := by
  obtain ⟨t, ht, hl⟩ := h.holds.table
  obtain ⟨t', ht', row, hrow, hread⟩ := hr
  rw [ht] at ht'
  obtain rfl := Option.some.inj ht'
  rw [hl.rows] at hrow
  obtain ⟨q, hq, rfl⟩ := List.mem_map.mp hrow
  rwa [(q.of_record_row (h.cut q hq) r hread).2]

/-- The stored packets of a readable store are its log. -/
theorem stores_iff (hread : s.Readable) (r : Record) : s.Stores r ↔ r ∈ log := by
  refine ⟨h.mem_of_stores r, fun hr => ?_⟩
  obtain ⟨t, ht, hl⟩ := h.holds.table
  refine ⟨t, ht, r.row, ?_, r.record_row (h.whole hread r hr) true⟩
  rw [hl.rows]
  exact List.mem_map_of_mem hr

theorem eq_of_id (r q : Record) (hr : r ∈ log) (hq : q ∈ log) (hid : r.id = q.id) : r = q := by
  obtain ⟨t, -, hl⟩ := h.holds.table
  have hf := find?_id log hl.rising r hr
  rw [hid, find?_id log hl.rising q hq] at hf
  exact (Option.some.inj hf).symm

theorem look_absent (x : PacketId) (hx : ∀ r ∈ log, r.id ≠ x) :
    s.look true x true = none ∧ s.look false x true = some (.error (.notFound x)) := by
  have hget := h.holds.get_not_mem x hx true
  rw [Store.get] at hget
  cases hm : s.look true x true with
  | some r =>
    rw [hm] at hget
    obtain ⟨q, -, rfl⟩ := Option.map_eq_some_iff.mp (hm : (s.inMemory? x).map _ = some r)
    cases hget
  | none =>
    rw [hm] at hget
    exact ⟨rfl, congrArg some hget⟩

theorem look_memory (x : PacketId) : s.look true x true = none ∨
    ∃ r ∈ log, r.id = x ∧ s.look true x true = some (.ok r) := by
  cases hm : s.inMemory? x with
  | none => exact .inl (congrArg (Option.map _) hm)
  | some r =>
    have hr : r ∈ log := h.holds.recent r (List.mem_reverse.mp (List.mem_of_find?_eq_some hm))
    have hid : r.id = x := by simpa using List.find?_some hm
    exact .inr ⟨r, hr, hid, congrArg (Option.map _) hm⟩

theorem look_table (r : Record) (hr : r ∈ log) (hw : r.toDraft.Whole) :
    s.look false r.id true = some (.ok r) := by
  change some (s.getStored r.id true) = _
  rw [h.holds.getStored_mem r hr, r.record_row hw]
  rfl

/-- What is found, in memory or in the table, is the packet of that id in the log. -/
theorem look_found (inMemory : Bool) (x : PacketId) (r : Record)
    (hlook : s.look inMemory x true = some (.ok r)) : r ∈ log ∧ r.id = x := by
  cases inMemory with
  | true =>
    rcases h.look_memory x with hnone | ⟨q, hq, hid, hsome⟩
    · rw [hnone] at hlook
      cases hlook
    · rw [hsome] at hlook
      cases hlook
      exact ⟨hq, hid⟩
  | false =>
    by_cases hx : ∀ q ∈ log, q.id ≠ x
    · rw [(h.look_absent x hx).2] at hlook
      cases hlook
    · obtain ⟨q, hq, rfl⟩ : ∃ q ∈ log, q.id = x := by simpa using hx
      have hrow : s.getStored q.id true = .ok r := Option.some.inj hlook
      rw [h.holds.getStored_mem q hq] at hrow
      cases hr : q.row.record true with
      | error e =>
        rw [hr] at hrow
        cases hrow
      | ok q' =>
        rw [hr] at hrow
        cases hrow
        rw [(q.of_record_row (h.cut q hq) r hr).2]
        exact ⟨hq, rfl⟩

end Store.Archives

section

variable {ids : Nat → JobId} {w : World} {log : List Record}

theorem World.Sound.run_cut (es : List Event) (h : w.Sound ids log)
    (hcut : ∀ r ∈ log, r.toDraft.cut = r.toDraft) :
    ∃ new, (World.run ids w es).2.Sound ids (log ++ new) ∧
      ∀ r ∈ log ++ new, r.toDraft.cut = r.toDraft := by
  induction es generalizing w log with
  | nil => exact ⟨[], by rwa [List.append_nil], by rwa [List.append_nil]⟩
  | cons e es ih =>
    obtain ⟨new, hnext, -, hnew⟩ := h.step e
    obtain ⟨more, hrun, hall⟩ := ih hnext (List.forall_mem_append.mpr ⟨hcut, hnew⟩)
    rw [List.append_assoc] at hrun hall
    exact ⟨new ++ more, hrun, hall⟩

theorem World.Reachable.sound_cut (h : w.Reachable ids) :
    ∃ log, w.Sound ids log ∧ ∀ r ∈ log, r.toDraft.cut = r.toDraft := by
  induction h with
  | start service size ops hs => exact ⟨_, World.sound_start ids service size ops hs, logged_cut _⟩
  | next w _ e ih =>
    obtain ⟨log, hsound, hcut⟩ := ih
    obtain ⟨new, hnext, -, hnew⟩ := hsound.step e
    exact ⟨log ++ new, hnext, List.forall_mem_append.mpr ⟨hcut, hnew⟩⟩

theorem World.Reachable.run (h : w.Reachable ids) (es : List Event) :
    (World.run ids w es).2.Reachable ids := by
  induction es generalizing w with
  | nil => exact h
  | cons e es ih => exact ih (h.next w e)

end

theorem Service.Turns.answered {ids : Nat → JobId} {s : Service}
    {before : Ask ⊕ Call} {t : Turn} (h : s.Turns ids before t) (a : Answer)
    (ha : t.answer = some a) : t.call = .answered := by
  cases h with
  | quiet _ _ _ _ _ hanswered => exact hanswered (Option.isSome_of_eq_some ha)
  | launch | insert => cases ha
  | mirror => rfl

namespace World

variable (ids : Nat → JobId) (w : World) (key : Nat)

theorem told_append (trace trace' : List (Event × Option Answer)) :
    told key (trace ++ trace') = told key trace ++ told key trace' := by
  rw [told, told, told, List.filter_append, List.map_append]

theorem mem_told (trace : List (Event × Option Answer)) (a : Option Answer) :
    a ∈ told key trace ↔ ∃ e, e.key? = some key ∧ (e, a) ∈ trace := by
  simp [told, and_comm]

/-- What is no part of a call tells it nothing and leaves it where it stands. -/
theorem run_apart (es : List Event) (h : ∀ e ∈ es, e.key? ≠ some key) :
    told key (World.run ids w es).1 = [] ∧ (World.run ids w es).2.calls key = w.calls key := by
  induction es generalizing w with
  | nil => exact ⟨rfl, rfl⟩
  | cons e es ih =>
    obtain ⟨he, hes⟩ := List.forall_mem_cons.mp h
    obtain ⟨htold, hcall⟩ := ih (w.step ids e).2 hes
    refine ⟨?_, hcall.trans (w.step_calls_ne ids e key he)⟩
    change told key ((e, (w.step ids e).1) :: (World.run ids (w.step ids e).2 es).1) = []
    rw [told_cons, if_neg he, htold]

theorem run_ask (hcall : w.calls key = none) (a : Ask) (es : List Event) :
    told key (World.run ids w (.ask key a :: es)).1 = (w.service.start a).answer ::
      told key (World.run ids (w.turn key (w.service.start a)) es).1 ∧
    (World.run ids w (.ask key a :: es)).2 =
      (World.run ids (w.turn key (w.service.start a)) es).2 := by
  have hstep : w.step ids (.ask key a) =
      ((w.service.start a).answer, w.turn key (w.service.start a)) := by
    simp only [step, hcall]
  have hrun : World.run ids w (.ask key a :: es) =
      ((.ask key a, (w.step ids (.ask key a)).1) ::
        (World.run ids (w.step ids (.ask key a)).2 es).1,
        (World.run ids (w.step ids (.ask key a)).2 es).2) := rfl
  rw [hrun, hstep]
  exact ⟨(told_cons key _ _ _).trans (if_pos rfl), rfl⟩

theorem run_advance (call : Call) (hcall : w.calls key = some call) (es : List Event)
    (h : ∀ e ∈ es, e.key? ≠ some key) (es' : List Event) :
    let u := (World.run ids w es).2
    let t := u.service.resume ids call
    told key (World.run ids w (es ++ .advance key :: es')).1 =
      t.answer :: told key (World.run ids (u.turn key t) es').1 ∧
    (World.run ids w (es ++ .advance key :: es')).2 = (World.run ids (u.turn key t) es').2 := by
  intro u t
  obtain ⟨htold, hstill⟩ := w.run_apart ids key es h
  have hstep : u.step ids (.advance key) = (t.answer, u.turn key t) := by
    simp only [step, hstill, hcall, u, t]
  have hrun : World.run ids u (.advance key :: es') =
      ((.advance key, (u.step ids (.advance key)).1) ::
        (World.run ids (u.step ids (.advance key)).2 es').1,
        (World.run ids (u.step ids (.advance key)).2 es').2) := rfl
  rw [run_trace_append, told_append, htold, World.run_append]
  change told key (World.run ids u (.advance key :: es')).1 = _ ∧
    (World.run ids u (.advance key :: es')).2 = _
  rw [hrun, hstep]
  exact ⟨(told_cons key _ _ _).trans (if_pos rfl), rfl⟩

theorem told_answered (h : w.calls key = some .answered) (es : List Event) :
    ∀ a ∈ told key (World.run ids w es).1, a = none := by
  have hturned : w.Turned ids key (fun _ t => t.answer = none) es := by
    refine turned_of ids (A := fun _ => False) (R := (· = .answered)) (C := fun _ => True) ?_ ?_ es
      w (fun _ _ => trivial) (.some w .answered h rfl)
    · exact fun _ _ _ ha => ha.elim
    · rintro w' _ - rfl
      exact ⟨rfl, rfl⟩
  intro a ha
  obtain ⟨e, hk, he⟩ := (mem_told key _ a).mp ha
  cases a with
  | none => rfl
  | some a =>
    obtain ⟨_, t, ht, hsome⟩ := hturned.answer ids e a hk es w he
    rw [ht] at hsome
    cases hsome

/-- **A call is answered once.** -/
theorem told_once (es : List Event) (a a' : Answer)
    (ha : some a ∈ told key (World.run ids w es).1)
    (ha' : some a' ∈ told key (World.run ids w es).1) : a = a' := by
  induction es generalizing w with
  | nil => cases ha
  | cons e es ih =>
    have hrun : (World.run ids w (e :: es)).1 =
      (e, (w.step ids e).1) :: (World.run ids (w.step ids e).2 es).1 := rfl
    rw [hrun, told_cons] at ha ha'
    by_cases hk : e.key? = some key
    · rw [if_pos hk] at ha ha'
      rcases w.step_part ids e key hk with ⟨-, hs⟩ | ⟨t, ht, hs⟩
      · rw [hs] at ha ha'
        exact ih w (by simpa using ha) (by simpa using ha')
      · rw [hs] at ha ha'
        obtain ⟨before, hb⟩ := w.part_turns ids key e t ht
        cases hanswer : t.answer with
        | none =>
          rw [hanswer] at ha ha'
          exact ih _ (by simpa using ha) (by simpa using ha')
        | some b =>
          rw [hanswer] at ha ha'
          have hcall := w.turn_calls_self key t
          rw [hb.answered b hanswer] at hcall
          have hnone := told_answered ids _ key hcall es
          have honly : ∀ c, some c ∈ some b :: told key (World.run ids (w.turn key t) es).1 →
              c = b := by
            intro c hc
            rcases List.mem_cons.mp hc with hhead | htail
            · exact Option.some.inj hhead
            · cases hnone _ htail
          rw [honly a ha, honly a' ha']
    · rw [if_neg hk] at ha ha'
      exact ih _ ha ha'

end World

end PacketReplay
