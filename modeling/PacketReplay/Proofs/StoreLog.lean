import Mathlib.Data.List.Induction
import Mathlib.Data.List.Perm.Subperm
import PacketReplay.Proofs.StoredRow
import PacketReplay.Store.Basic

/-!
# The store as a log

A store holds a log of records: its rows are those of the log in order, under rising numbers none of
which is above the greatest given out, and what is kept in memory is in the log. Adding a packet
puts one record at the end; opening the table again and keeping a record in memory change nothing.
Nothing is said here of a table that another program has changed.
-/

set_option autoImplicit false

namespace PacketReplay

/-- The rows of a table are those of records with rising ids. Some may have been deleted. -/
structure Table.Keeps (t : Table) (log : List Record) : Prop where
  rows : t.rows = log.map Record.row
  rising : log.Pairwise fun a b => a.id < b.id
  given : ∀ r ∈ log, 0 < r.id.toNat ∧ r.id.toNat ≤ t.lastGiven
  bounded : t.lastGiven ≤ 0x7FFFFFFFFFFFFFFF

structure Table.Logs (t : Table) (log : List Record) : Prop where
  rows : t.rows = log.map Record.row
  rising : log.Pairwise fun a b => a.id < b.id
  given : ∀ r ∈ log, 0 < r.id.toNat ∧ r.id.toNat ≤ t.lastGiven
  last : t.lastGiven = log.length
  bounded : t.lastGiven ≤ 0x7FFFFFFFFFFFFFFF

structure Store.Holds (s : Store) (log : List Record) : Prop where
  table : ∃ t, s.table = some t ∧ t.Logs log
  recent : ∀ r ∈ s.recent, r ∈ log

namespace Table.Keeps

variable {t : Table} {log : List Record} (h : t.Keeps log)

include h

theorem greatest_eq : t.greatest = t.lastGiven := by
  have hg : ∀ rows : List Row, (∀ r ∈ rows, r.id ≤ t.lastGiven) →
      rows.foldl (fun n r => max n r.id) (t.lastGiven : Int) = t.lastGiven := by
    intro rows hr
    induction rows with
    | nil => rfl
    | cons r rows ih =>
      rw [List.foldl_cons, max_eq_left (hr r (by simp))]
      exact ih fun q hq => hr q (by simp [hq])
  apply hg
  intro row hrow
  rw [h.rows] at hrow
  obtain ⟨r, hr, rfl⟩ := List.mem_map.mp hrow
  have := (h.given r hr).2
  change (r.id.toNat : Int) ≤ t.lastGiven
  omega

theorem insert_full (hf : t.lastGiven = 0x7FFFFFFFFFFFFFFF) (d : Draft) : t.insert d = none := by
  rw [Table.insert, h.greatest_eq, if_neg]
  rw [hf]
  decide

theorem insert_eq (hf : t.lastGiven < 0x7FFFFFFFFFFFFFFF) (d : Draft) :
    t.insert d = some ((t.lastGiven : Int) + 1,
      ⟨t.rows ++ [Row.ofDraft ((t.lastGiven : Int) + 1) d], t.lastGiven + 1⟩) := by
  have hn : ((t.lastGiven : Int) + 1).toNat = t.lastGiven + 1 := by omega
  have hm : (t.lastGiven : Int) + 1 ≤ Cell.maxInt := by
    change (t.lastGiven : Int) + 1 ≤ 0x7FFFFFFFFFFFFFFF
    omega
  rw [Table.insert, h.greatest_eq, if_pos hm, hn]

theorem insert_keeps (hf : t.lastGiven < 0x7FFFFFFFFFFFFFFF) (d : Draft) :
    Table.Keeps ⟨t.rows ++ [Row.ofDraft ((t.lastGiven : Int) + 1) d], t.lastGiven + 1⟩
      (log ++ [d.withId (UInt64.ofNat (t.lastGiven + 1))]) := by
  have hid : (UInt64.ofNat (t.lastGiven + 1)).toNat = t.lastGiven + 1 :=
    UInt64.toNat_ofNat_of_lt (by change _ < 0x10000000000000000; omega)
  refine ⟨?_, ?_, ?_, ?_⟩
  · have hrow : (d.withId (UInt64.ofNat (t.lastGiven + 1))).row =
        Row.ofDraft ((t.lastGiven : Int) + 1) d := by
      change Row.ofDraft ((UInt64.ofNat (t.lastGiven + 1)).toNat : Int) d = _
      rw [hid]
      rfl
    rw [List.map_append, ← h.rows, List.map_singleton, hrow]
  · rw [List.pairwise_append]
    refine ⟨h.rising, by simp, ?_⟩
    intro r hr q hq
    obtain rfl := List.mem_singleton.mp hq
    have hg := (h.given r hr).2
    change r.id < UInt64.ofNat (t.lastGiven + 1)
    rw [UInt64.lt_iff_toNat_lt, hid]
    omega
  · intro r hr
    rw [List.mem_append, List.mem_singleton] at hr
    change 0 < r.id.toNat ∧ r.id.toNat ≤ t.lastGiven + 1
    rcases hr with hr | rfl
    · have := h.given r hr
      omega
    · change 0 < (UInt64.ofNat (t.lastGiven + 1)).toNat ∧
        (UInt64.ofNat (t.lastGiven + 1)).toNat ≤ t.lastGiven + 1
      omega
  · change t.lastGiven + 1 ≤ _
    omega

theorem of_insert {s : Store} (ht : s.table = some t) (d : Draft) (r : Record) (s' : Store)
    (hi : s.insert d = .ok (r, s')) :
    t.lastGiven < 0x7FFFFFFFFFFFFFFF ∧ r = d.cut.withId (UInt64.ofNat (t.lastGiven + 1)) ∧
      s' = { s with table := some ⟨t.rows ++ [Row.ofDraft ((t.lastGiven : Int) + 1) d.cut],
        t.lastGiven + 1⟩ } := by
  rw [Store.insert, ht] at hi
  by_cases hf : t.lastGiven < 0x7FFFFFFFFFFFFFFF
  · simp only [h.insert_eq hf] at hi
    have hn : ((t.lastGiven : Int) + 1).toNat = t.lastGiven + 1 := by omega
    rw [hn] at hi
    cases hi
    exact ⟨hf, rfl, rfl⟩
  · simp only [h.insert_full (Nat.le_antisymm h.bounded (by omega))] at hi
    cases hi

theorem delete (n : Int) :
    (t.delete n).2.Keeps (log.filter fun r => (r.id.toNat : Int) != n) where
  rows := by
    change t.rows.filter (fun row => row.id != n) = _
    rw [h.rows, List.filter_map]
    rfl
  rising := h.rising.filter _
  given := fun r hr => h.given r (List.mem_filter.mp hr).1
  bounded := h.bounded

theorem length_le : log.length ≤ 0x7FFFFFFFFFFFFFFF := by
  have hnodup : (log.map fun r => r.id.toNat).Nodup := by
    rw [List.Nodup, List.pairwise_map]
    exact h.rising.imp fun hab => Nat.ne_of_lt (UInt64.lt_iff_toNat_lt.mp hab)
  have hsub : (log.map fun r => r.id.toNat) ⊆ List.range' 1 t.lastGiven := by
    intro n hn
    obtain ⟨r, hr, rfl⟩ := List.mem_map.mp hn
    have hg := h.given r hr
    rw [List.mem_range'_1]
    omega
  have hlength := (hnodup.subperm hsub).length_le
  rw [List.length_map, List.length_range'] at hlength
  exact hlength.trans h.bounded

end Table.Keeps

namespace Table.Logs

variable {t : Table} {log : List Record}

theorem empty : Table.empty.Logs [] where
  rows := rfl
  rising := .nil
  given := by simp
  last := rfl
  bounded := Nat.zero_le _

theorem keeps (h : t.Logs log) : t.Keeps log :=
  ⟨h.rows, h.rising, h.given, h.bounded⟩

/-- The record at the end of the log after a row was added. -/
theorem insert_logs (h : t.Logs log) (hf : t.lastGiven < 0x7FFFFFFFFFFFFFFF) (d : Draft) :
    Table.Logs ⟨t.rows ++ [Row.ofDraft ((t.lastGiven : Int) + 1) d], t.lastGiven + 1⟩
      (log ++ [d.withId (UInt64.ofNat (t.lastGiven + 1))]) := by
  have hkeeps := h.keeps.insert_keeps hf d
  refine ⟨hkeeps.rows, hkeeps.rising, hkeeps.given, ?_, hkeeps.bounded⟩
  have hlast := h.last
  simp only [List.length_append, List.length_singleton]
  omega

theorem find?_row (h : t.Logs log) (n : Int) :
    t.find? n = (log.find? fun r => (r.id.toNat : Int) == n).map Record.row := by
  rw [Table.find?, h.rows, List.find?_map]
  rfl

end Table.Logs

theorem find?_id (log : List Record) (h : log.Pairwise fun a b => a.id < b.id) (r : Record)
    (hr : r ∈ log) : log.find? (fun q => q.id == r.id) = some r := by
  induction log with
  | nil => cases hr
  | cons q log ih =>
    rw [List.pairwise_cons] at h
    rcases List.mem_cons.mp hr with rfl | hr
    · simp
    · have hne : q.id ≠ r.id := fun he => absurd (he ▸ h.1 r hr) (UInt64.lt_irrefl _)
      rw [List.find?_cons_of_neg (by simpa using hne)]
      exact ih h.2 hr

/-- Whatever the table holds, a packet is added as it was given, with its time cut. -/
theorem Store.insert_draft (s : Store) (d : Draft) (r : Record) (s' : Store)
    (h : s.insert d = .ok (r, s')) : r.toDraft = d.cut := by
  unfold Store.insert at h
  split at h
  · cases h
  · split at h
    · cases h
    · cases h
      rfl

theorem Store.insert_cut (s : Store) (d : Draft) (r : Record) (s' : Store)
    (h : s.insert d = .ok (r, s')) : r.toDraft.cut = r.toDraft := by
  rw [s.insert_draft d r s' h]
  exact d.cut_cut

theorem Store.rowNumber_eq_iff (x : PacketId) (n : Nat) (hn : n ≤ 0x7FFFFFFFFFFFFFFF) :
    Store.rowNumber x = n ↔ x.toNat = n := by
  have hx := x.toNat_lt
  unfold Store.rowNumber
  split <;> omega

namespace Store.Holds

variable {s : Store} {log : List Record}

theorem empty (capacity : Nat) : (Store.empty capacity).Holds [] where
  table := ⟨Table.empty, rfl, Table.Logs.empty⟩
  recent := by simp [Store.empty]

theorem reopenedWith (h : s.Holds log) (capacity : Nat) :
    (s.reopenedWith capacity).Holds log where
  table := by
    obtain ⟨t, ht, hl⟩ := h.table
    refine ⟨t, ?_, hl⟩
    change some (s.table.getD Table.empty) = some t
    rw [ht]
    rfl
  recent := by simp [Store.reopenedWith]

theorem mirror (h : s.Holds log) (r : Record) (hr : r ∈ log) : (s.mirror r).Holds log where
  table := h.table
  recent := by
    intro q hq
    have hq : q ∈ s.recent ++ [r] := List.mem_of_mem_drop hq
    rw [List.mem_append, List.mem_singleton] at hq
    rcases hq with hq | rfl
    · exact h.recent q hq
    · exact hr

theorem insert_ok (h : s.Holds log) (d : Draft) (r : Record) (s' : Store)
    (hi : s.insert d = .ok (r, s')) :
    s'.Holds (log ++ [r]) ∧ r = d.cut.withId r.id ∧ ∀ q ∈ log, q.id < r.id := by
  obtain ⟨t, ht, hl⟩ := h.table
  obtain ⟨hf, rfl, rfl⟩ := hl.keeps.of_insert ht d r s' hi
  have hlog := hl.insert_logs hf d.cut
  refine ⟨⟨⟨_, rfl, hlog⟩, fun q hq => ?_⟩, rfl, fun q hq => ?_⟩
  · exact List.mem_append_left _ (h.recent q hq)
  · exact (List.pairwise_append.mp hlog.rising).2.2 q hq _ (List.mem_singleton_self _)

theorem insert_exists (h : s.Holds log) (d : Draft) (hf : log.length < 0x7FFFFFFFFFFFFFFF) :
    ∃ r s', s.insert d = .ok (r, s') := by
  obtain ⟨t, ht, hl⟩ := h.table
  have hlast := hl.last
  rw [Store.insert, ht]
  simp only [hl.keeps.insert_eq (by omega)]
  exact ⟨_, _, rfl⟩

theorem inMemory?_mem (h : s.Holds log) (r q : Record) (hr : r ∈ log)
    (hm : s.inMemory? r.id = some q) : q = r := by
  obtain ⟨t, -, hl⟩ := h.table
  have hq : q ∈ log := h.recent q (List.mem_reverse.mp (List.mem_of_find?_eq_some hm))
  have hid : q.id = r.id := by simpa using List.find?_some hm
  have hf := find?_id log hl.rising q hq
  rw [hid, find?_id log hl.rising r hr] at hf
  exact (Option.some.inj hf).symm

theorem getStored_mem (h : s.Holds log) (r : Record) (hr : r ∈ log) (includeBody : Bool) :
    s.getStored r.id includeBody =
      (r.row.record includeBody).mapError fun cause => .storage [cause] := by
  obtain ⟨t, ht, hl⟩ := h.table
  have hg := hl.given r hr
  have hb := hl.bounded
  have hp : (fun q : Record => (q.id.toNat : Int) == (r.id.toNat : Int)) =
      fun q => q.id == r.id := by
    funext q
    rw [Bool.eq_iff_iff, beq_iff_eq, beq_iff_eq, Int.natCast_inj, UInt64.toNat_inj]
  have hf : t.find? (Store.rowNumber r.id) = some r.row := by
    rw [(Store.rowNumber_eq_iff r.id r.id.toNat (by omega)).mpr rfl, hl.find?_row, hp,
      find?_id log hl.rising r hr]
    rfl
  simp only [Store.getStored, ht, hf]
  cases r.row.record includeBody <;> rfl

theorem get_whole (h : s.Holds log) (r : Record) (hr : r ∈ log) (hw : r.toDraft.Whole)
    (includeBody : Bool) : s.get r.id includeBody = .ok (r.seen includeBody) := by
  unfold Store.get Store.look
  cases hm : s.inMemory? r.id with
  | some q =>
    obtain rfl := h.inMemory?_mem r q hr hm
    rfl
  | none =>
    rw [h.getStored_mem r hr, r.record_row hw]
    rfl

theorem get_mem (h : s.Holds log) (hw : ∀ r ∈ log, r.toDraft.Whole) (r : Record) (hr : r ∈ log)
    (includeBody : Bool) : s.get r.id includeBody = .ok (r.seen includeBody) :=
  h.get_whole r hr (hw r hr) includeBody

/-- An id that no record of the log has is not found, also one that no row's number stands for. -/
theorem get_not_mem (h : s.Holds log) (x : PacketId) (hx : ∀ r ∈ log, r.id ≠ x)
    (includeBody : Bool) : s.get x includeBody = .error (.notFound x) := by
  obtain ⟨t, ht, hl⟩ := h.table
  have hm : s.inMemory? x = none := by
    rw [Store.inMemory?, List.find?_eq_none]
    intro r hr
    have := hx r (h.recent r (List.mem_reverse.mp hr))
    simpa using this
  have hf : t.find? (Store.rowNumber x) = none := by
    rw [hl.find?_row, Option.map_eq_none_iff, List.find?_eq_none]
    intro r hr he
    have hg := hl.given r hr
    have hb := hl.bounded
    rw [beq_iff_eq] at he
    have hn := (Store.rowNumber_eq_iff x r.id.toNat (by omega)).mp he.symm
    exact hx r hr (UInt64.toNat_inj.mp hn.symm)
  simp only [Store.get, Store.look, hm, Store.getStored, ht, hf]
  rfl

theorem length_le (h : s.Holds log) : log.length ≤ 0x7FFFFFFFFFFFFFFF := by
  obtain ⟨t, ht, hl⟩ := h.table
  rw [← hl.last]
  exact hl.bounded

theorem count_eq (h : s.Holds log) : s.count = .ok log.length.toUInt64 := by
  obtain ⟨t, ht, hl⟩ := h.table
  simp only [Store.count, ht, hl.rows, List.length_map]

theorem appendUnless_ok (h : s.Holds log) (refusal : Option (List String)) (d : Draft)
    (id : PacketId) (s' : Store) (ha : s.appendUnless refusal d = .ok (id, s')) :
    s'.Holds (log ++ [d.cut.withId id]) := by
  cases refusal with
  | some causes => cases ha
  | none =>
    cases hi : s.insert d with
    | error e => simp [Store.appendUnless, Store.insertUnless, hi] at ha
    | ok p =>
      obtain ⟨r, t⟩ := p
      simp only [Store.appendUnless, Store.insertUnless, hi] at ha
      cases ha
      obtain ⟨ht, hr, -⟩ := h.insert_ok d r t hi
      rw [← hr]
      exact ht.mirror r (by simp)

theorem append_exists (h : s.Holds log) (d : Draft) (hf : log.length < 0x7FFFFFFFFFFFFFFF) :
    ∃ id s', s.append d = .ok (id, s') := by
  obtain ⟨r, t, hi⟩ := h.insert_exists d hf
  exact ⟨r.id, t.mirror r, by simp [Store.append, Store.appendUnless, Store.insertUnless, hi]⟩

end Store.Holds

inductive StoreOp where
  | append (d : Draft) (refusal : Option (List String))
  | get (id : PacketId) (includeBody : Bool)
  | list (page : Page) (f : Filter) (o : Order)
  | count
  | reopen

inductive StoreAnswer where
  | appended (r : Except PacketError PacketId)
  | found (r : Except PacketError Record)
  | listed (r : Except PacketError Listing)
  | counted (r : Except PacketError UInt64)
  | reopened

/-- Whether an operation adds no packet but a timely one. -/
def StoreOp.Timely : StoreOp → Prop
  | append d _ => d.Timely
  | _ => True

def Instant.epoch : Instant :=
  ⟨0, 0, by decide⟩

/-- A captured packet with nothing but a URL, from the start of 1970. -/
def Draft.bare (url : String) : Draft :=
  ⟨.get, url, none, [], none, [], none, .epoch, .captured⟩

namespace Store

/-- One operation. The store is opened again with a given capacity. -/
def perform (capacity : Nat) (s : Store) : StoreOp → StoreAnswer × Store
  | .append d refusal =>
    match s.appendUnless refusal d with
    | .error e => (.appended (.error e), s)
    | .ok (id, s') => (.appended (.ok id), s')
  | .get id includeBody => (.found (s.get id includeBody), s)
  | .list page f o => (.listed (s.list page f o), s)
  | .count => (.counted s.count, s)
  | .reopen => (.reopened, s.reopenedWith capacity)

/-- A run on a new store, with its operations and their answers. The capacities with which the store
is opened may all be different. -/
def run (size : Nat → Nat) (ops : List StoreOp) : List (StoreOp × StoreAnswer) × Store :=
  ops.foldl
    (fun p op =>
      let (answer, s) := p.2.perform (size (p.1.length + 1)) op
      (p.1 ++ [(op, answer)], s))
    ([], Store.empty (size 0))

end Store

/-- The records of the packets that were added: what was given, with the time cut to milliseconds,
under the id that was answered. -/
def logged (trace : List (StoreOp × StoreAnswer)) : List Record :=
  trace.filterMap fun
    | (.append d _, .appended (.ok id)) => some (d.cut.withId id)
    | _ => none

theorem Store.run_concat (size : Nat → Nat) (ops : List StoreOp) (op : StoreOp) :
    Store.run size (ops ++ [op]) =
      let p := Store.run size ops
      let q := p.2.perform (size (p.1.length + 1)) op
      (p.1 ++ [(op, q.1)], q.2) := by
  rw [Store.run, List.foldl_append]
  rfl

theorem logged_concat (trace : List (StoreOp × StoreAnswer)) (op : StoreOp) (a : StoreAnswer) :
    logged (trace ++ [(op, a)]) = logged trace ++ logged [(op, a)] :=
  List.filterMap_append

/-- An operation puts what it adds at the end of the log. -/
theorem Store.Holds.perform {s : Store} {log : List Record} (h : s.Holds log) (capacity : Nat)
    (op : StoreOp) :
    (s.perform capacity op).2.Holds (log ++ logged [(op, (s.perform capacity op).1)]) := by
  cases op with
  | append d refusal =>
    cases ha : s.appendUnless refusal d with
    | error e => simpa [Store.perform, ha, logged] using h
    | ok p => simpa [Store.perform, ha, logged] using h.appendUnless_ok refusal d p.1 p.2 ha
  | get id includeBody => simpa [Store.perform, logged] using h
  | list page f o => simpa [Store.perform, logged] using h
  | count => simpa [Store.perform, logged] using h
  | reopen => simpa [Store.perform, logged] using h.reopenedWith capacity

theorem Store.run_holds (size : Nat → Nat) (ops : List StoreOp) :
    (Store.run size ops).2.Holds (logged (Store.run size ops).1) := by
  induction ops using List.reverseRecOn with
  | nil => exact Store.Holds.empty (size 0)
  | append_singleton ops op ih =>
    rw [Store.run_concat, logged_concat]
    exact ih.perform _ op

theorem logged_whole (trace : List (StoreOp × StoreAnswer)) (h : ∀ p ∈ trace, p.1.Timely) :
    ∀ r ∈ logged trace, r.toDraft.Whole := by
  intro r hr
  obtain ⟨⟨op, a⟩, hp, hm⟩ := List.mem_filterMap.mp hr
  have ht := h _ hp
  split at hm
  · rename_i d refusal id he
    cases he
    cases hm
    exact Draft.Timely.cut_whole ht
  · cases hm

theorem Store.run_ops (size : Nat → Nat) (ops : List StoreOp) :
    (Store.run size ops).1.map Prod.fst = ops := by
  induction ops using List.reverseRecOn with
  | nil => rfl
  | append_singleton ops op ih =>
    rw [Store.run_concat, List.map_append, ih]
    rfl

theorem Store.run_whole (size : Nat → Nat) (ops : List StoreOp) (h : ∀ op ∈ ops, op.Timely) :
    ∀ r ∈ logged (Store.run size ops).1, r.toDraft.Whole := by
  apply logged_whole
  intro p hp
  apply h
  rw [← Store.run_ops size ops]
  exact List.mem_map_of_mem hp

end PacketReplay
