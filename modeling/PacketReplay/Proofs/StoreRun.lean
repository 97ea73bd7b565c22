import PacketReplay.Proofs.Listing

/-!
# Runs of a store

A store answers from the log of what was added to it. What it keeps in memory decides where an
answer comes from and never what it is, so two runs of the same operations give the same answers
whatever the sizes of their memories. The operations follow one another; of two that overlap nothing
is said here.
-/

set_option autoImplicit false

namespace PacketReplay

/-- What reading a packet comes to, judged by the log alone. -/
def recalled (log : List Record) (x : PacketId) (includeBody : Bool) : Except PacketError Record :=
  match log.find? fun r => r.id == x with
  | some r => .ok (r.seen includeBody)
  | none => .error (.notFound x)

theorem Store.Holds.get_eq {s : Store} {log : List Record} (h : s.Holds log)
    (hw : ∀ r ∈ log, r.toDraft.Whole) (x : PacketId) (includeBody : Bool) :
    s.get x includeBody = recalled log x includeBody := by
  unfold recalled
  cases hf : log.find? fun r => r.id == x with
  | some r =>
    have hid : r.id = x := by simpa using List.find?_some hf
    rw [← hid]
    exact h.get_mem hw r (List.mem_of_find?_eq_some hf) includeBody
  | none =>
    refine h.get_not_mem x ?_ includeBody
    intro r hr
    simpa using List.find?_eq_none.mp hf r hr

section

variable {s s' : Store} {log : List Record}

theorem Store.insert_table (h : s.table = s'.table) (d : Draft) :
    (s.insert d).map (fun p => (p.1, p.2.table)) =
      (s'.insert d).map fun p => (p.1, p.2.table) := by
  rw [Store.insert, Store.insert, h]
  cases s'.table with
  | none => rfl
  | some t =>
    cases ht : t.insert d.cut with
    | none => simp only [ht, Except.map]
    | some p => simp only [ht, Except.map]

theorem Store.appendUnless_table (h : s.table = s'.table) (refusal : Option (List String))
    (d : Draft) :
    (s.appendUnless refusal d).map (fun p => (p.1, p.2.table)) =
      (s'.appendUnless refusal d).map fun p => (p.1, p.2.table) := by
  cases refusal with
  | some causes => rfl
  | none =>
    have hi := Store.insert_table h d
    simp only [Store.appendUnless, Store.insertUnless]
    cases ha : s.insert d with
    | error e =>
      cases hb : s'.insert d with
      | error e' => simpa [ha, hb, Except.map] using hi
      | ok p => simp [ha, hb, Except.map] at hi
    | ok p =>
      cases hb : s'.insert d with
      | error e => simp [ha, hb, Except.map] at hi
      | ok q =>
        simp only [ha, hb, Except.map, Except.ok.injEq, Prod.mk.injEq] at hi
        simp only [Except.map, Store.mirror, hi.1, hi.2]

/-- Stores over one table that hold one log answer alike, and go on over one table. -/
theorem Store.perform_alike (h : s.Holds log) (h' : s'.Holds log)
    (hw : ∀ r ∈ log, r.toDraft.Whole) (ht : s.table = s'.table) (capacity capacity' : Nat)
    (op : StoreOp) :
    (s.perform capacity op).1 = (s'.perform capacity' op).1 ∧
      (s.perform capacity op).2.table = (s'.perform capacity' op).2.table := by
  cases op with
  | append d refusal =>
    have ha := Store.appendUnless_table ht refusal d
    simp only [Store.perform]
    cases hx : s.appendUnless refusal d with
    | error e =>
      cases hy : s'.appendUnless refusal d with
      | error e' =>
        simp only [hx, hy, Except.map, Except.error.injEq] at ha
        exact ⟨by rw [ha], ht⟩
      | ok q => simp [hx, hy, Except.map] at ha
    | ok p =>
      cases hy : s'.appendUnless refusal d with
      | error e => simp [hx, hy, Except.map] at ha
      | ok q =>
        obtain ⟨id, t⟩ := p
        obtain ⟨id', t'⟩ := q
        simp only [hx, hy, Except.map, Except.ok.injEq, Prod.mk.injEq] at ha
        obtain ⟨rfl, htable⟩ := ha
        exact ⟨rfl, htable⟩
  | get x includeBody =>
    refine ⟨?_, ht⟩
    change StoreAnswer.found _ = .found _
    rw [h.get_eq hw, h'.get_eq hw]
  | list page f o =>
    refine ⟨?_, ht⟩
    change StoreAnswer.listed _ = .listed _
    rw [h.list_eq hw, h'.list_eq hw]
  | count =>
    refine ⟨?_, ht⟩
    change StoreAnswer.counted _ = .counted _
    rw [h.count_eq, h'.count_eq]
  | reopen =>
    refine ⟨rfl, ?_⟩
    change some (s.table.getD _) = some (s'.table.getD _)
    rw [ht]

end

theorem Store.run_alike (size size' : Nat → Nat) (ops : List StoreOp)
    (h : ∀ op ∈ ops, op.Timely) :
    (Store.run size ops).1 = (Store.run size' ops).1 ∧
      (Store.run size ops).2.table = (Store.run size' ops).2.table := by
  induction ops using List.reverseRecOn with
  | nil => exact ⟨rfl, rfl⟩
  | append_singleton ops op ih =>
    have hops : ∀ o ∈ ops, o.Timely := fun o ho => h o (List.mem_append_left _ ho)
    obtain ⟨htrace, htable⟩ := ih hops
    have hs := Store.run_holds size ops
    have hs' := Store.run_holds size' ops
    rw [← htrace] at hs'
    have hop := Store.perform_alike hs hs' (Store.run_whole size ops hops) htable
      (size ((Store.run size ops).1.length + 1)) (size' ((Store.run size' ops).1.length + 1)) op
    rw [Store.run_concat, Store.run_concat]
    refine ⟨?_, hop.2⟩
    change (Store.run size ops).1 ++ _ = (Store.run size' ops).1 ++ _
    rw [hop.1, htrace]

/-- **A store is a log, and its memory does not show.** After any run, with any sizes of its memory:
ids have only risen, every packet that was added reads back as it was given, with and without its
bodies, and is listed as its summary, any other id is not found, the count is right, and a packet can
be added as long as there are numbers left. Every answer on the way was the one that other sizes
would have given. -/
theorem Store.run_is_log (size : Nat → Nat) (ops : List StoreOp) (h : ∀ op ∈ ops, op.Timely) :
    let s := (Store.run size ops).2
    let log := logged (Store.run size ops).1
    (log.Pairwise fun a b => a.id < b.id) ∧
    (∀ r ∈ log, s.get r.id true = .ok r ∧ s.get r.id false = .ok r.withoutBodies) ∧
    (∀ x, (∀ r ∈ log, r.id ≠ x) → ∀ b, s.get x b = .error (.notFound x)) ∧
    (∀ page f o, ∃ l, s.list page f o = .ok l ∧ ∀ entry ∈ l.packets, ∃ r ∈ log, entry = r.summary) ∧
    (∃ n, s.count = .ok n ∧ n.toNat = log.length) ∧
    (log.length < 0x7FFFFFFFFFFFFFFF → ∀ d, ∃ id s', s.append d = .ok (id, s')) ∧
    ∀ size', (Store.run size' ops).1 = (Store.run size ops).1 := by
  intro s log
  have hs : s.Holds log := Store.run_holds size ops
  have hw : ∀ r ∈ log, r.toDraft.Whole := Store.run_whole size ops h
  have hle := hs.length_le
  refine ⟨?_, ?_, ?_, ?_, ?_, ?_, ?_⟩
  · obtain ⟨t, -, hl⟩ := hs.table
    exact hl.rising
  · intro r hr
    exact ⟨hs.get_mem hw r hr true, hs.get_mem hw r hr false⟩
  · intro x hx b
    exact hs.get_not_mem x hx b
  · intro page f o
    refine ⟨_, hs.list_eq hw page f o, ?_⟩
    intro entry hentry
    obtain ⟨r, hr, rfl⟩ := List.mem_map.mp hentry
    have hr : r ∈ f.hits o log := List.mem_of_mem_drop (List.mem_of_mem_take hr)
    exact ⟨r, (List.mem_filter.mp ((f.hits_perm o log).mem_iff.mp hr)).1, rfl⟩
  · exact ⟨_, hs.count_eq, UInt64.toNat_ofNat_of_lt (by change _ < 0x10000000000000000; omega)⟩
  · intro hroom d
    exact hs.append_exists d hroom
  · intro size'
    exact (Store.run_alike size' size ops h).1

/-- A packet that has left the memory, with one that is still there; both are listed. -/
theorem Store.run_is_log_two :
    let ops := [StoreOp.append (.bare "/a") none, .append (.bare "/b") none]
    let s := (Store.run (fun _ => 1) ops).2
    (∀ op ∈ ops, op.Timely) ∧
      s.recent = [(Draft.bare "/b").withId 2] ∧
      s.get 1 true = .ok ((Draft.bare "/a").withId 1) ∧
      ∃ l, s.list .first .all .descending = .ok l ∧ l.packets.length = 2 ∧
        ∀ entry ∈ l.packets, entry = ((Draft.bare "/a").withId 1).summary ∨
          entry = ((Draft.bare "/b").withId 2).summary := by
  intro ops s
  have ht : ∀ op ∈ ops, op.Timely := by
    intro op hop
    simp only [ops, List.mem_cons, List.not_mem_nil, or_false] at hop
    rcases hop with rfl | rfl
    · change (Draft.bare "/a").Timely
      decide
    · change (Draft.bare "/b").Timely
      decide
  have hlog : logged (Store.run (fun _ => 1) ops).1 =
      [(Draft.bare "/a").withId 1, (Draft.bare "/b").withId 2] := rfl
  obtain ⟨-, hget, -, hlist, -⟩ := Store.run_is_log (fun _ => 1) ops ht
  rw [hlog] at hget hlist
  obtain ⟨l, hl, hentries⟩ := hlist .first .all .descending
  have hlength : (s.list .first .all .descending).toOption.map (·.packets.length) = some 2 := by
    decide +kernel
  refine ⟨ht, rfl, (hget _ List.mem_cons_self).1, l, hl, ?_, fun entry hentry => ?_⟩
  · rw [show s.list .first .all .descending = .ok l from hl] at hlength
    exact Option.some.inj hlength
  · obtain ⟨r, hr, rfl⟩ := hentries entry hentry
    simp only [List.mem_cons, List.not_mem_nil, or_false] at hr
    rcases hr with rfl | rfl
    · exact .inl rfl
    · exact .inr rfl

end PacketReplay
