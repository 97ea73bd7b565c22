import PacketReplay.Proofs.Refusal

set_option autoImplicit false

namespace PacketReplay

def Cell.hidden : Cell → Cell
  | .blob _ => .null
  | c => c

def Row.hidden (r : Row) : Row :=
  { r with body := r.body.hidden, responseBody := r.responseBody.hidden }

def Table.hidden (t : Table) : Table :=
  { t with rows := t.rows.map Row.hidden }

def Store.hidden (s : Store) : Store :=
  { s with table := s.table.map Table.hidden, recent := s.recent.map Record.withoutBodies }

/-- Drafts that differ in the bytes of their bodies at most. -/
structure Draft.Alike (d d' : Draft) : Prop where
  rest : d' = { d with body := d'.body, responseBody := d'.responseBody }
  length : bodyLength d.body = bodyLength d'.body

theorem Draft.Alike.cut {d d' : Draft} (h : d.Alike d') : d.cut.Alike d'.cut := by
  obtain ⟨hrest, hlength⟩ := h
  rw [hrest]
  exact ⟨rfl, hlength⟩

theorem Draft.Alike.withoutBodies_eq {d d' : Draft} (h : d.Alike d') (id : PacketId) :
    (d.withId id).withoutBodies = (d'.withId id).withoutBodies := by
  rw [h.rest]
  rfl

/-- The rows of drafts that are alike differ in two cells only, which hold bytes or nothing. -/
theorem Draft.Alike.row_eq {d d' : Draft} (h : d.Alike d') (id : Int) :
    (Row.ofDraft id d).hidden = (Row.ofDraft id d').hidden := by
  have hnull (b : Option Bytes) : (Cell.ofOption .blob b).hidden = .null := by cases b <;> rfl
  have hlength := h.length
  rw [h.rest] at hlength ⊢
  simp only [Row.hidden, Row.ofDraft, hnull, hlength]

theorem Record.withoutBodies_eq (r : Record) (hbody : r.body = none)
    (hresponse : r.responseBody = none) : r.withoutBodies = r := by
  obtain ⟨⟨method, url, status, headers, body, responseHeaders, responseBody, time, origin⟩, id⟩ := r
  cases hbody
  cases hresponse
  rfl

namespace Row

theorem readBody_hidden (r : Row) (includeBody : Bool) (c : Column)
    (hc : c = .body ∨ c = .responseBody) :
    r.hidden.readBody includeBody c = (fun _ => none) <$> r.readBody includeBody c := by
  have hread (b : Cell) : b.hidden.nullableBlob? = b.nullableBlob?.map fun _ => none := by
    cases b <;> rfl
  cases includeBody with
  | false => rfl
  | true =>
    have hget : r.hidden.get c = (r.get c).hidden := by rcases hc with rfl | rfl <;> rfl
    change read r.hidden c Cell.nullableBlob? = (fun _ => none) <$> read r c Cell.nullableBlob?
    rw [read, read, hget, hread]
    cases (r.get c).nullableBlob? <;> rfl

theorem record_hidden (r : Row) (includeBody : Bool) :
    r.hidden.record includeBody = Record.withoutBodies <$> r.record includeBody := by
  unfold record
  simp only [readBody_hidden r includeBody _ (.inl rfl), readBody_hidden r includeBody _ (.inr rfl),
    map_bind, bind_map_left, map_pure]
  rfl

theorem record_false (r : Row) : Record.withoutBodies <$> r.record false = r.record false :=
  (r.record_hidden false).symm

end Row

namespace Table

theorem greatest_hidden (t : Table) : t.hidden.greatest = t.greatest := by
  rw [greatest, greatest, hidden, List.foldl_map]
  rfl

theorem find?_hidden (t : Table) (n : Int) : t.hidden.find? n = (t.find? n).map Row.hidden := by
  rw [find?, find?, hidden, List.find?_map]
  rfl

theorem selected_hidden (t : Table) (bound : List (Test × Cell)) :
    t.hidden.selected bound = (t.selected bound).map Row.hidden := by
  have houtcome (row : Row) (test : Test) (c : Cell) :
      test.outcome row.hidden c = test.outcome row c := by cases test <;> cases c <;> rfl
  rw [selected, selected, hidden, List.filter_map]
  simp only [Function.comp_def, houtcome]

theorem countWhere_hidden (t : Table) (tests : List Test) (params : List Cell) :
    t.hidden.countWhere tests params = t.countWhere tests params := by
  simp only [countWhere, selected_hidden, List.length_map]

theorem inOrder_hidden (o : Order) (rows : List Row) :
    inOrder o (rows.map Row.hidden) = (inOrder o rows).map Row.hidden := by
  cases o with
  | ascending => rfl
  | descending => exact List.map_reverse.symm

theorem window_hidden (limit offset : Int) (rows : List Row) :
    window limit offset (rows.map Row.hidden) = (window limit offset rows).map Row.hidden := by
  unfold window
  split <;> simp only [List.map_drop, List.map_take]

theorem pageWhere_hidden (t : Table) (tests : List Test) (o : Order) (params : List Cell) :
    t.hidden.pageWhere tests o params = (t.pageWhere tests o params).map (List.map Row.hidden) := by
  unfold pageWhere
  split
  · simp only [selected_hidden, inOrder_hidden, window_hidden, Option.map_some]
  · rfl

theorem insert_alike {t t' : Table} (h : t.hidden = t'.hidden) {d d' : Draft} (hd : d.Alike d') :
    (t.insert d = none ∧ t'.insert d' = none) ∨
      ∃ n u u', t.insert d = some (n, u) ∧ t'.insert d' = some (n, u') ∧ u.hidden = u'.hidden := by
  have hid : t.greatest = t'.greatest := by rw [← greatest_hidden, h, greatest_hidden]
  have hrows : t.rows.map Row.hidden = t'.rows.map Row.hidden := congrArg Table.rows h
  by_cases hn : t'.greatest + 1 ≤ Cell.maxInt
  · refine .inr ⟨_, _, _, by rw [insert, hid, if_pos hn], by rw [insert, if_pos hn], ?_⟩
    simp only [hidden, List.map_append, List.map_singleton, hrows, hd.row_eq]
  · exact .inl ⟨by rw [insert, hid, if_neg hn], by rw [insert, if_neg hn]⟩

end Table

namespace Store

theorem list_hidden (s : Store) (page : Page) (f : Filter) (o : Order) :
    s.hidden.list page f o = s.list page f o := by
  have hsummaries (rows : List Row) :
      (rows.map Row.hidden).mapM Row.summary = rows.mapM Row.summary := by
    rw [List.mapM_map]
    rfl
  unfold list
  cases ht : s.table with
  | none => simp only [hidden, ht, Option.map_none]
  | some t =>
    simp only [hidden, ht, Option.map_some, Table.countWhere_hidden, Table.pageWhere_hidden]
    cases t.countWhere f.tests f.params with
    | none => rfl
    | some total =>
      cases t.pageWhere f.tests o (f.params ++ [.int page.limit, .int page.offset]) with
      | none => rfl
      | some rows => simp only [Option.map_some, hsummaries]

theorem getStored_hidden (s : Store) (id : PacketId) (includeBody : Bool) :
    s.hidden.getStored id includeBody = Record.withoutBodies <$> s.getStored id includeBody := by
  unfold getStored
  cases ht : s.table with
  | none =>
    simp only [hidden, ht, Option.map_none]
    rfl
  | some t =>
    simp only [hidden, ht, Option.map_some, Table.find?_hidden]
    cases t.find? (rowNumber id) with
    | none => rfl
    | some row =>
      simp only [Option.map_some, Row.record_hidden]
      cases row.record includeBody <;> rfl

theorem inMemory?_hidden (s : Store) (id : PacketId) :
    s.hidden.inMemory? id = (s.inMemory? id).map Record.withoutBodies := by
  rw [inMemory?, inMemory?, hidden, ← List.map_reverse, List.find?_map]
  rfl

theorem look_hidden (s : Store) (inMemory : Bool) (id : PacketId) (includeBody : Bool) :
    s.hidden.look inMemory id includeBody =
      (s.look inMemory id includeBody).map (Record.withoutBodies <$> ·) := by
  unfold look
  cases inMemory with
  | false => simp only [getStored_hidden]; rfl
  | true =>
    simp only [inMemory?_hidden, ite_true, Option.map_map]
    congr 1
    funext r
    cases includeBody <;> rfl

/-- Who wants no bodies is told none, from memory and from the table. -/
theorem look_false (s : Store) (inMemory : Bool) (id : PacketId) (r : Record)
    (h : s.look inMemory id false = some (.ok r)) : r.body = none ∧ r.responseBody = none := by
  cases inMemory with
  | true =>
    obtain ⟨q, -, hq⟩ := Option.map_eq_some_iff.mp h
    cases hq
    exact ⟨rfl, rfl⟩
  | false =>
    have hstored : s.getStored id false = .ok r := Option.some.inj h
    unfold getStored at hstored
    split at hstored
    · cases hstored
    · split at hstored
      · cases hstored
      · rename_i row _
        split at hstored
        · cases hstored
        · rename_i hr
          cases hstored
          have hbare := row.record_false
          rw [hr] at hbare
          have hr : r.withoutBodies = r := Except.ok.inj hbare
          rw [← hr]
          exact ⟨rfl, rfl⟩

theorem look_hidden_false (s : Store) (inMemory : Bool) (id : PacketId) :
    s.hidden.look inMemory id false = s.look inMemory id false := by
  rw [look_hidden]
  cases h : s.look inMemory id false with
  | none => rfl
  | some r =>
    cases r with
    | error e => rfl
    | ok r =>
      obtain ⟨hbody, hresponse⟩ := s.look_false inMemory id r h
      exact congrArg (some ∘ Except.ok) (r.withoutBodies_eq hbody hresponse)

theorem get_false (s : Store) (id : PacketId) (r : Record) (h : s.get id false = .ok r) :
    r.body = none ∧ r.responseBody = none := by
  unfold get at h
  cases hl : s.look true id false with
  | none =>
    rw [hl] at h
    exact s.look_false false id r (congrArg some h)
  | some q =>
    rw [hl] at h
    exact s.look_false true id r (by rw [hl]; exact congrArg some h)

theorem get_hidden_false (s : Store) (id : PacketId) : s.hidden.get id false = s.get id false := by
  have hstored : s.hidden.getStored id false = s.getStored id false :=
    Option.some.inj (s.look_hidden_false false id)
  rw [get, get, look_hidden_false, hstored]

theorem insertUnless_alike {s s' : Store} (h : s.hidden = s'.hidden) {d d' : Draft}
    (hd : d.Alike d') (refusal : Option (List String)) :
    (∃ e, s.insertUnless refusal d = .error e ∧ s'.insertUnless refusal d' = .error e) ∨
      ∃ r t r' t', s.insertUnless refusal d = .ok (r, t) ∧
        s'.insertUnless refusal d' = .ok (r', t') ∧ r.withoutBodies = r'.withoutBodies ∧
        t.hidden = t'.hidden := by
  have htable : s.table.map Table.hidden = s'.table.map Table.hidden := congrArg Store.table h
  have hrecent : s.recent.map Record.withoutBodies = s'.recent.map Record.withoutBodies :=
    congrArg Store.recent h
  have hcapacity : s.capacity = s'.capacity := by
    change s.hidden.capacity = s'.hidden.capacity
    rw [h]
  cases refusal with
  | some causes => exact .inl ⟨_, rfl, rfl⟩
  | none =>
    simp only [insertUnless, insert]
    cases ht : s.table with
    | none =>
      cases ht' : s'.table with
      | none => exact .inl ⟨_, rfl, rfl⟩
      | some t' => simp [ht, ht'] at htable
    | some t =>
      cases ht' : s'.table with
      | none => simp [ht, ht'] at htable
      | some t' =>
        rcases Table.insert_alike (by simpa [ht, ht'] using htable) hd.cut with
          ⟨hi, hi'⟩ | ⟨n, u, u', hi, hi', hu⟩
        · simp only [hi, hi']
          exact .inl ⟨_, rfl, rfl⟩
        · simp only [hi, hi']
          refine .inr ⟨_, _, _, _, rfl, rfl, hd.cut.withoutBodies_eq _, ?_⟩
          simp only [hidden, Option.map_some, hu, hrecent, hcapacity]

theorem mirror_hidden (s : Store) (r : Record) :
    (s.mirror r).hidden = s.hidden.mirror r.withoutBodies := by
  simp [mirror, hidden, remember, List.map_drop]

theorem mirror_alike {s s' : Store} (h : s.hidden = s'.hidden) {r r' : Record}
    (hr : r.withoutBodies = r'.withoutBodies) : (s.mirror r).hidden = (s'.mirror r').hidden := by
  rw [mirror_hidden, mirror_hidden, h, hr]

end Store

inductive StoreOp.Alike : StoreOp → StoreOp → Prop where
  | append {d d' : Draft} (h : d.Alike d') (refusal : Option (List String)) :
    Alike (.append d refusal) (.append d' refusal)
  | same (op : StoreOp) (h : ∀ d refusal, op ≠ .append d refusal) : Alike op op

namespace Store

theorem reopenedWith_hidden (s : Store) (capacity : Nat) :
    (s.reopenedWith capacity).hidden = s.hidden.reopenedWith capacity := by
  simp only [reopenedWith, hidden]
  cases s.table <;> rfl

theorem perform_alike_hidden {s s' : Store} (h : s.hidden = s'.hidden) (capacity : Nat)
    {op op' : StoreOp} (hop : op.Alike op') :
    (s.perform capacity op).2.hidden = (s'.perform capacity op').2.hidden := by
  cases hop with
  | append hd refusal =>
    simp only [perform, appendUnless]
    rcases insertUnless_alike h hd refusal with
      ⟨e, hi, hi'⟩ | ⟨r, t, r', t', hi, hi', hr, ht⟩
    · rw [hi, hi']
      exact h
    · rw [hi, hi']
      exact mirror_alike ht hr
  | same _ hop =>
    cases op with
    | append d refusal => exact absurd rfl (hop d refusal)
    | get | list | count => exact h
    | reopen =>
      change (s.reopenedWith capacity).hidden = (s'.reopenedWith capacity).hidden
      rw [reopenedWith_hidden, reopenedWith_hidden, h]

theorem run_alike_hidden (size : Nat → Nat) {ops ops' : List StoreOp}
    (h : List.Forall₂ StoreOp.Alike ops ops') :
    (run size ops).2.hidden = (run size ops').2.hidden := by
  let P (p p' : List (StoreOp × StoreAnswer) × Store) : Prop :=
    p.1.length = p'.1.length ∧ p.2.hidden = p'.2.hidden
  refine (List.rel_foldl (P := P) ?_ ⟨rfl, rfl⟩ h).2
  rintro ⟨trace, s⟩ ⟨trace', s'⟩ ⟨hlength, hs⟩ op op' hop
  refine ⟨by simp [hlength], ?_⟩
  simp only [hlength]
  exact perform_alike_hidden hs _ hop

end Store

/-- Coordinators without jobs, with stores that are the same but for the bytes of bodies. -/
def Coordinator.Alike (c c' : Coordinator) : Prop :=
  ∃ s s', c = .ofStore s ∧ c' = .ofStore s' ∧ s.hidden = s'.hidden

theorem Coordinator.Alike.withStore {c c' : Coordinator} (h : c.Alike c') {s s' : Store}
    (hs : s.hidden = s'.hidden) : Alike { c with store := s } { c' with store := s' } := by
  obtain ⟨_, _, rfl, rfl, -⟩ := h
  exact ⟨s, s', rfl, rfl, hs⟩

structure Service.Alike (s s' : Service) : Prop where
  configs : s.configs = s'.configs
  coordinator : s.coordinator.Alike s'.coordinator

/-- Calls that read or store packets and are the same but for the bytes of bodies. -/
inductive Ask.Alike : Ask → Ask → Prop where
  | history (p : HistoryParams) : Alike (.history p) (.history p)
  | config (p : ConfigParams) : Alike (.config p) (.config p)
  | detail (p : DetailParams) : Alike (.detail p) (.detail p)
  | append {d d' : Draft} (h : d.Alike d') (refusal : Option (List String)) :
    Alike (.append d refusal) (.append d' refusal)

inductive Call.Alike : Call → Call → Prop where
  | listing (page : Page) (f : Filter) (o : Order) : Alike (.listing page f o) (.listing page f o)
  | reading (id : PacketId) (includeBody inMemory : Bool) :
    Alike (.reading id includeBody inMemory) (.reading id includeBody inMemory)
  | keeping {r r' : Record} (h : r.withoutBodies = r'.withoutBodies) :
    Alike (.keeping r) (.keeping r')
  | answered : Alike .answered .answered

def Answer.hidden : Answer → Answer
  | .detail r => .detail (Record.withoutBodies <$> r)
  | a => a

structure Turn.Alike (t t' : Turn) : Prop where
  call : t.call.Alike t'.call
  answer : t.answer.map Answer.hidden = t'.answer.map Answer.hidden
  coordinator : t.coordinator.Alike t'.coordinator

namespace Service

variable {s s' : Service}

theorem Alike.store_eq (h : s.Alike s') : s.store.hidden = s'.store.hidden := by
  obtain ⟨t, t', ht, ht', hidden⟩ := h.coordinator
  rw [store, store, ht, ht']
  exact hidden

theorem Alike.history_eq (h : s.Alike s') (p : HistoryParams) : s.history p = s'.history p := by
  unfold history
  cases p.query with
  | error e => rfl
  | ok q =>
    change s.store.list q.1 q.2.1 q.2.2 = s'.store.list q.1 q.2.1 q.2.2
    rw [← Store.list_hidden, h.store_eq, Store.list_hidden]

theorem Alike.detail_eq (h : s.Alike s') (raw : Int) :
    s.detail ⟨raw, false⟩ = s'.detail ⟨raw, false⟩ := by
  unfold detail
  simp only
  cases packetId raw with
  | error e => rfl
  | ok id =>
    change s.store.get id false = s'.store.get id false
    rw [← Store.get_hidden_false, h.store_eq, Store.get_hidden_false]

theorem detail_false (s : Service) (raw : Int) (r : Record) (h : s.detail ⟨raw, false⟩ = .ok r) :
    r.body = none ∧ r.responseBody = none := by
  unfold detail at h
  simp only at h
  cases hid : packetId raw with
  | error e =>
    rw [hid] at h
    cases h
  | ok id =>
    rw [hid] at h
    exact s.store.get_false id r h

theorem start_alike (h : s.Alike s') {a a' : Ask} (ha : a.Alike a') :
    (s.start a).Alike (s'.start a') := by
  cases ha with
  | history p =>
    simp only [start]
    cases p.query with
    | error e => exact ⟨.answered, rfl, h.coordinator⟩
    | ok q => exact ⟨.listing _ _ _, rfl, h.coordinator⟩
  | config p =>
    refine ⟨.answered, ?_, h.coordinator⟩
    simp only [start, config, h.configs]
    rfl
  | detail p =>
    simp only [start]
    cases packetId p.packetId with
    | error e => exact ⟨.answered, rfl, h.coordinator⟩
    | ok id => exact ⟨.reading _ _ _, rfl, h.coordinator⟩
  | append hd refusal =>
    simp only [start]
    rcases Store.insertUnless_alike h.store_eq hd refusal with
      ⟨e, hi, hi'⟩ | ⟨r, t, r', t', hi, hi', hr, ht⟩
    · rw [hi, hi']
      exact ⟨.answered, rfl, h.coordinator⟩
    · rw [hi, hi']
      exact ⟨.keeping hr, rfl, h.coordinator.withStore ht⟩

theorem resume_alike (ids : Nat → JobId) (h : s.Alike s') {c c' : Call} (hc : c.Alike c') :
    (s.resume ids c).Alike (s'.resume ids c') := by
  cases hc with
  | listing page f o =>
    have hlist : s.store.list page f o = s'.store.list page f o := by
      rw [← s.store.list_hidden, h.store_eq, s'.store.list_hidden]
    refine ⟨.answered, ?_, h.coordinator⟩
    simp only [resume, tell, hlist]
  | reading id includeBody inMemory =>
    have hlook : (s.store.look inMemory id includeBody).map (Record.withoutBodies <$> ·) =
        (s'.store.look inMemory id includeBody).map (Record.withoutBodies <$> ·) := by
      rw [← s.store.look_hidden, h.store_eq, s'.store.look_hidden]
    simp only [resume]
    cases hl : s.store.look inMemory id includeBody with
    | none =>
      have hl' : s'.store.look inMemory id includeBody = none := by simpa [hl] using hlook
      rw [hl']
      exact ⟨.reading _ _ _, rfl, h.coordinator⟩
    | some r =>
      rw [hl, Option.map_some] at hlook
      obtain ⟨r', hl', hr⟩ := Option.map_eq_some_iff.mp hlook.symm
      rw [hl']
      exact ⟨.answered, congrArg (some ∘ Answer.detail) hr.symm, h.coordinator⟩
  | keeping hr =>
    have hid := congrArg Record.id hr
    refine ⟨.answered, ?_, h.coordinator.withStore (Store.mirror_alike h.store_eq hr)⟩
    exact congrArg (fun id => some (Answer.append (.ok id))) hid
  | answered => exact ⟨.answered, rfl, h.coordinator⟩

end Service

/-- Events of calls that are the same but for the bytes of bodies, or one event of jobs. -/
inductive Event.Alike : Event → Event → Prop where
  | ask (key : Nat) {a a' : Ask} (h : a.Alike a') : Alike (.ask key a) (.ask key a')
  | same (e : Event) (h : ∀ key a, e ≠ .ask key a) : Alike e e

theorem Event.Alike.key?_eq {e e' : Event} (h : e.Alike e') : e.key? = e'.key? := by
  cases h <;> rfl

namespace World

def told (key : Nat) (trace : List (Event × Option Answer)) : List (Option Answer) :=
  (trace.filter fun p => p.1.key? == some key).map Prod.snd

structure Alike (w w' : World) : Prop where
  service : w.service.Alike w'.service
  calls : ∀ k, Option.Rel Call.Alike (w.calls k) (w'.calls k)

variable (ids : Nat → JobId) {w w' : World}

theorem Alike.call (h : w.Alike w') (key : Nat) :
    (w.calls key = none ∧ w'.calls key = none) ∨
      ∃ c c', w.calls key = some c ∧ w'.calls key = some c' ∧ c.Alike c' := by
  have hcall := h.calls key
  generalize w.calls key = c at hcall
  generalize w'.calls key = c' at hcall
  cases hcall with
  | none => exact .inl ⟨rfl, rfl⟩
  | some hc => exact .inr ⟨_, _, rfl, rfl, hc⟩

theorem Alike.turn (h : w.Alike w') (key : Nat) {t t' : Turn} (ht : t.Alike t') :
    (w.turn key t).Alike (w'.turn key t') where
  service := ⟨h.service.configs, ht.coordinator⟩
  calls := by
    intro k
    rw [turn_calls, turn_calls]
    split
    · exact .some ht.call
    · exact h.calls k

theorem JobStep.eq_of_ofStore {n : Nat} (h : w.JobStep n w') {s : Store}
    (hc : w.coordinator = .ofStore s) : w' = w := by
  cases h with
  | idle => rfl
  | move j hj => simp [hc, Coordinator.ofStore] at hj

theorem step_alike (h : w.Alike w') {e e' : Event} (he : e.Alike e') :
    (w.step ids e).2.Alike (w'.step ids e').2 ∧
      (w.step ids e).1.map Answer.hidden = (w'.step ids e').1.map Answer.hidden := by
  cases he with
  | ask key ha =>
    simp only [step]
    rcases h.call key with ⟨hc, hc'⟩ | ⟨c, c', hc, hc', -⟩
    · have ht := Service.start_alike h.service ha
      rw [hc, hc']
      exact ⟨h.turn key ht, ht.answer⟩
    · rw [hc, hc']
      exact ⟨h, rfl⟩
  | same e hask =>
    cases hk : e.key? with
    | none =>
      -- no job has been launched, so neither world moves
      obtain ⟨s, s', hs, hs', -⟩ := h.service.coordinator
      obtain ⟨ha, n, hstep⟩ := w.step_jobStep ids e hk
      obtain ⟨ha', n', hstep'⟩ := w'.step_jobStep ids e hk
      rw [ha, ha', hstep.eq_of_ofStore hs, hstep'.eq_of_ofStore hs']
      exact ⟨h, rfl⟩
    | some k =>
      cases e with
      | ask key a => exact absurd rfl (hask key a)
      | advance key =>
        simp only [step]
        rcases h.call key with ⟨hc, hc'⟩ | ⟨c, c', hc, hc', hcall⟩
        · rw [hc, hc']
          exact ⟨h, rfl⟩
        · have ht := Service.resume_alike ids h.service hcall
          rw [hc, hc']
          exact ⟨h.turn key ht, ht.answer⟩
      | dispatch | receive | mirror | publish | proceed | wake => cases hk

theorem told_cons (key : Nat) (e : Event) (a : Option Answer)
    (trace : List (Event × Option Answer)) :
    told key ((e, a) :: trace) =
      if e.key? = some key then a :: told key trace else told key trace := by
  by_cases he : e.key? = some key <;> simp [told, he]

/-- **Runs that are alike** go on alike, and what is told in them is the same once the bodies in it
are hidden. -/
theorem run_alike {es es' : List Event} (hes : List.Forall₂ Event.Alike es es') (h : w.Alike w') :
    (World.run ids w es).2.Alike (World.run ids w' es').2 ∧
      ∀ key, (told key (World.run ids w es).1).map (Option.map Answer.hidden) =
        (told key (World.run ids w' es').1).map (Option.map Answer.hidden) := by
  induction hes generalizing w w' with
  | nil => exact ⟨h, fun _ => rfl⟩
  | cons he hes ih =>
    rename_i e e' es es'
    obtain ⟨hstep, hanswer⟩ := step_alike ids h he
    obtain ⟨hrun, htold⟩ := ih hstep
    refine ⟨hrun, fun key => ?_⟩
    change (told key ((e, (w.step ids e).1) :: (World.run ids (w.step ids e).2 es).1)).map _ =
      (told key ((e', (w'.step ids e').1) :: (World.run ids (w'.step ids e').2 es').1)).map _
    rw [told_cons, told_cons, he.key?_eq]
    split
    · rw [List.map_cons, List.map_cons, hanswer, htold key]
    · exact htold key

end World

def Ask.Bodiless : Ask → Prop
  | .history _ => True
  | .config _ => True
  | .detail p => p.includeBody = false
  | _ => False

/-- Whether a call stands where one may stand that asks for no bodies. -/
def Call.Bodiless : Call → Prop
  | .listing _ _ _ => True
  | .reading _ includeBody _ => includeBody = false
  | .answered => True
  | _ => False

def Answer.Bodiless : Answer → Prop
  | .detail (.ok r) => r.body = none ∧ r.responseBody = none
  | _ => True

theorem Answer.Bodiless.hidden_eq {a : Answer} (h : a.Bodiless) : a.hidden = a := by
  cases a with
  | detail r =>
    cases r with
    | error e => rfl
    | ok r =>
      have hr := r.withoutBodies_eq h.1 h.2
      exact congrArg (Answer.detail ∘ .ok) hr
  | history | config | resend | append => rfl

theorem Service.start_bodiless (s : Service) (a : Ask) (h : a.Bodiless) :
    (∀ b, (s.start a).answer = some b → b.Bodiless) ∧ (s.start a).call.Bodiless := by
  cases a with
  | history p =>
    simp only [start]
    split
    · exact ⟨by simp [tell, Answer.Bodiless], trivial⟩
    · exact ⟨by simp [goOn], trivial⟩
  | config p => exact ⟨by simp [start, tell, Answer.Bodiless], trivial⟩
  | detail p =>
    simp only [start]
    split
    · exact ⟨by simp [tell, Answer.Bodiless], trivial⟩
    · exact ⟨by simp [goOn], h⟩
  | resend | execute | append => cases h

theorem Service.resume_bodiless (ids : Nat → JobId) (s : Service) (call : Call)
    (h : call.Bodiless) : (∀ b, (s.resume ids call).answer = some b → b.Bodiless) ∧
      (s.resume ids call).call.Bodiless := by
  cases call with
  | listing page f o => exact ⟨by simp [resume, tell, Answer.Bodiless], trivial⟩
  | reading id includeBody inMemory =>
    obtain rfl : includeBody = false := h
    simp only [resume]
    split
    · exact ⟨by simp [goOn], rfl⟩
    · rename_i r hl
      refine ⟨?_, trivial⟩
      rintro _ ⟨⟩
      cases r with
      | error e => trivial
      | ok r => exact s.store.look_false inMemory id r hl
  | answered => exact ⟨by simp [resume, goOn], trivial⟩
  | finding | launched | keeping => cases h

namespace World

variable (ids : Nat → JobId)

/-- **Who asks for no bodies is told none**, in any run. -/
theorem told_bodiless (w : World) (es : List Event) (key : Nat) (hc : w.calls key = none)
    (h : ∀ a, .ask key a ∈ es → a.Bodiless) (a : Answer)
    (ha : some a ∈ told key (World.run ids w es).1) : a.Bodiless := by
  have hturned : w.Turned ids key (fun _ t => ∀ b, t.answer = some b → b.Bodiless) es := by
    refine turned_of ids (R := Call.Bodiless) (C := fun _ => True) ?_ ?_ es w
      (fun _ _ => trivial) (.none w hc h)
    · exact fun w a _ ha => w.service.start_bodiless a ha
    · exact fun w call _ hcall => w.service.resume_bodiless ids call hcall
  obtain ⟨⟨e, b⟩, he, rfl⟩ := List.mem_map.mp ha
  obtain ⟨hmem, hkey⟩ := List.mem_filter.mp he
  obtain ⟨_, t, ht, hanswer⟩ := hturned.answer ids e a (by simpa using hkey) es w hmem
  exact ht a hanswer

end World

theorem Answer.map_hidden_eq (as : List (Option Answer)) (h : ∀ a, some a ∈ as → a.Bodiless) :
    as.map (Option.map Answer.hidden) = as := by
  have hone : ∀ o ∈ as, o.map Answer.hidden = o := by
    intro o ho
    cases o with
    | none => rfl
    | some a => exact congrArg some (h a ho).hidden_eq
  exact (List.map_congr_left hone).trans (List.map_id as)

theorem bodiless_alike {es es' : List Event} (hes : List.Forall₂ Event.Alike es es') (key : Nat)
    (h : ∀ a, .ask key a ∈ es → a.Bodiless) : ∀ a, .ask key a ∈ es' → a.Bodiless := by
  induction hes with
  | nil => exact h
  | cons he hes ih =>
    intro a ha
    rcases List.mem_cons.mp ha with rfl | ha
    · cases he with
      | ask _ hask =>
        have hb := h _ List.mem_cons_self
        cases hask with
        | history | config | detail => exact hb
        | append => cases hb
      | same _ hno => exact absurd rfl (hno key a)
    · exact ih (fun b hb => h b (by simp [hb])) a ha

/-- **Bodies are told only to those who ask for them.** Take two runs of the same operations on a
store, and after them two runs of the same calls on a service over it, in which the same packets are
added but for the bytes of their bodies: a request's bodies have one length, a response's may be
any or missing. Whoever lists packets, or asks for one without bodies, is told the same in both
runs, at the same parts of the call, and there is no body in it. So it is for every listing and
every packet at the end, and for what is found in memory and in the table alike. -/
theorem bodies_stay_hidden (ids : Nat → JobId) (size : Nat → Nat) (ops ops' : List StoreOp)
    (hops : List.Forall₂ StoreOp.Alike ops ops') (s s' : Service) (hconfigs : s.configs = s'.configs)
    (hs : s.coordinator = .ofStore (Store.run size ops).2)
    (hs' : s'.coordinator = .ofStore (Store.run size ops').2) (es es' : List Event)
    (hes : List.Forall₂ Event.Alike es es') :
    let run := World.run ids (.start s) es
    let run' := World.run ids (.start s') es'
    (∀ key, (∀ a, .ask key a ∈ es → a.Bodiless) →
      World.told key run.1 = World.told key run'.1 ∧
        ∀ a, some a ∈ World.told key run.1 → a.Bodiless) ∧
    (∀ p, run.2.service.history p = run'.2.service.history p) ∧
    (∀ raw, run.2.service.detail ⟨raw, false⟩ = run'.2.service.detail ⟨raw, false⟩ ∧
      ∀ r, run.2.service.detail ⟨raw, false⟩ = .ok r → r.body = none ∧ r.responseBody = none) ∧
    ∀ inMemory id, run.2.store.look inMemory id false = run'.2.store.look inMemory id false ∧
      ∀ r, run.2.store.look inMemory id false = some (.ok r) →
        r.body = none ∧ r.responseBody = none := by
  intro run run'
  have hstart : (World.start s).Alike (World.start s') :=
    ⟨⟨hconfigs, _, _, hs, hs', Store.run_alike_hidden size hops⟩, fun _ => .none⟩
  obtain ⟨hend, htold⟩ := World.run_alike ids hes hstart
  refine ⟨fun key hkey => ?_, hend.service.history_eq, fun raw => ⟨hend.service.detail_eq raw, ?_⟩,
    fun inMemory id => ⟨?_, fun r hr => run.2.store.look_false inMemory id r hr⟩⟩
  · have hbodiless := World.told_bodiless ids (.start s) es key rfl hkey
    have hbodiless' := World.told_bodiless ids (.start s') es' key rfl (bodiless_alike hes key hkey)
    have heq := htold key
    rw [Answer.map_hidden_eq _ hbodiless, Answer.map_hidden_eq _ hbodiless'] at heq
    exact ⟨heq, hbodiless⟩
  · exact fun r hr => run.2.service.detail_false raw r hr
  · have hstore : run.2.store.hidden = run'.2.store.hidden := hend.service.store_eq
    rw [← Store.look_hidden_false, hstore, Store.look_hidden_false]

def Draft.secret (body : Bytes) (responseBody : Option Bytes) : Draft :=
  { Draft.bare "/" with body := some body, responseBody := responseBody }

theorem bodies_stay_hidden_secret :
    let store (d : Draft) := (Store.run (fun _ => 1) [.append d none]).2
    let service (d : Draft) : Service :=
      ⟨.ofStore (store d), .fixed none, ⟨[]⟩, 1000, 60000⟩
    let events (d : Draft) : List Event :=
      [.ask 0 (.append d none), .ask 1 (.detail ⟨1, false⟩), .advance 0, .advance 1, .advance 1]
    let run (d : Draft) := World.run (fun _ => "") (.start (service d)) (events d)
    World.told 1 (run (.secret [1] none)).1 = World.told 1 (run (.secret [2] (some [3]))).1 ∧
      ∀ a, some a ∈ World.told 1 (run (.secret [1] none)).1 → a.Bodiless := by
  intro store service events run
  have hd : (Draft.secret [1] none).Alike (.secret [2] (some [3])) := ⟨rfl, rfl⟩
  refine (bodies_stay_hidden (fun _ => "") (fun _ => 1) [.append (.secret [1] none) none]
    [.append (.secret [2] (some [3])) none] (.cons (.append hd none) .nil)
    (service (.secret [1] none)) (service (.secret [2] (some [3]))) rfl rfl rfl
    (events (.secret [1] none)) (events (.secret [2] (some [3]))) ?_).1 1 ?_
  · refine .cons (.ask 0 (.append hd none)) (.cons (.ask 1 (.detail _)) ?_)
    exact .cons (.same _ (by simp)) (.cons (.same _ (by simp)) (.cons (.same _ (by simp)) .nil))
  · intro a ha
    obtain rfl : a = .detail ⟨1, false⟩ := by simpa [events] using ha
    rfl

end PacketReplay
