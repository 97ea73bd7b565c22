import PacketReplay.Proofs.StoreLog

set_option autoImplicit false

namespace PacketReplay

/-- Whether a filter selects a record. What is not set restricts nothing. -/
structure Filter.Selects (f : Filter) (r : Record) : Prop where
  method : ∀ m, f.method = some m → r.method = m
  url : ∀ part, f.urlContains = some part →
    part.toList.map Char.toLower <:+: r.url.toList.map Char.toLower
  statusMin : ∀ low, f.statusMin = some low → ∃ s, r.status = some s ∧ low ≤ s
  statusMax : ∀ high, f.statusMax = some high → ∃ s, r.status = some s ∧ s ≤ high
  origin : ∀ k, f.origin = some k → r.origin.kind = k

def Order.before : Order → PacketId → PacketId → Bool
  | .ascending, a, b => a ≤ b
  | .descending, a, b => b ≤ a

def Filter.bound (f : Filter) : List (Test × Cell) :=
  (f.method.map fun m => (Test.methodIs, Cell.text m.name)).toList ++
    (f.urlContains.map fun part => (Test.urlHas, Cell.text part.toLower)).toList ++
    (f.statusMin.map fun s => (Test.statusAtLeast, Cell.int s.toNat)).toList ++
    (f.statusMax.map fun s => (Test.statusAtMost, Cell.int s.toNat)).toList ++
    (f.origin.map fun k => (Test.originKindIs, Cell.text k.name)).toList

theorem Filter.map_fst_bound (f : Filter) : f.bound.map Prod.fst = f.tests := by
  simp only [Filter.bound, Filter.tests, List.map_append, ← Option.toList_map, Option.map_map,
    Function.comp_def]

theorem Filter.map_snd_bound (f : Filter) : f.bound.map Prod.snd = f.params := by
  simp only [Filter.bound, Filter.params, List.map_append, ← Option.toList_map, Option.map_map,
    Function.comp_def]

theorem Test.bind_map (bs : List (Test × Cell)) (rest : List Cell) :
    Test.bind (bs.map Prod.fst) (bs.map Prod.snd ++ rest) = some (bs, rest) := by
  induction bs with
  | nil => rfl
  | cons b bs ih =>
    simp only [List.map_cons, List.cons_append, Test.bind, ih]
    rfl

theorem Filter.bind_params (f : Filter) (rest : List Cell) :
    Test.bind f.tests (f.params ++ rest) = some (f.bound, rest) := by
  rw [← f.map_fst_bound, ← f.map_snd_bound]
  exact Test.bind_map f.bound rest

theorem containsText_iff (needle cs : List Char) : containsText needle cs = true ↔ needle <:+: cs := by
  induction cs with
  | nil => simp [containsText]
  | cons c cs ih =>
    rw [containsText, Bool.or_eq_true, ih, List.isPrefixOf_iff_prefix, List.infix_cons_iff]

theorem toList_toLower (s : String) : s.toLower.toList = s.toList.map Char.toLower :=
  String.toList_map

theorem Method.name_inj (a b : Method) : a.name = b.name ↔ a = b := by
  cases a <;> cases b <;> decide

theorem OriginKind.name_inj (a b : OriginKind) : a.name = b.name ↔ a = b := by
  cases a <;> cases b <;> decide

section

variable (r : Record)

theorem Test.outcome_methodIs (m : Method) :
    Test.outcome r.row .methodIs (.text m.name) = some true ↔ r.method = m := by
  change (Cell.text r.method.name).unlessNull (Cell.text r.method.name == .text m.name) = _ ↔ _
  simp [Cell.unlessNull, Method.name_inj]

theorem Test.outcome_urlHas (part : String) :
    Test.outcome r.row .urlHas (.text part.toLower) = some true ↔
      part.toList.map Char.toLower <:+: r.url.toList.map Char.toLower := by
  change some (containsText part.toLower.toList r.url.toLower.toList) = some true ↔ _
  rw [Option.some_inj, containsText_iff, toList_toLower, toList_toLower]

theorem Test.outcome_statusAtLeast (low : UInt16) :
    Test.outcome r.row .statusAtLeast (.int low.toNat) = some true ↔
      ∃ s, r.status = some s ∧ low ≤ s := by
  obtain ⟨⟨method, url, status, headers⟩, id⟩ := r
  cases status with
  | none => simp [Test.outcome, Record.row, Row.ofDraft, Cell.ofOption, Cell.unlessNull]
  | some s =>
    change (Cell.int s.toNat).unlessNull (decide ((low.toNat : Int) ≤ s.toNat)) = _ ↔ _
    simp [Cell.unlessNull, UInt16.le_iff_toNat_le]

theorem Test.outcome_statusAtMost (high : UInt16) :
    Test.outcome r.row .statusAtMost (.int high.toNat) = some true ↔
      ∃ s, r.status = some s ∧ s ≤ high := by
  obtain ⟨⟨method, url, status, headers⟩, id⟩ := r
  cases status with
  | none => simp [Test.outcome, Record.row, Row.ofDraft, Cell.ofOption, Cell.unlessNull]
  | some s =>
    change (Cell.int s.toNat).unlessNull (decide ((s.toNat : Int) ≤ high.toNat)) = _ ↔ _
    simp [Cell.unlessNull, UInt16.le_iff_toNat_le]

theorem Test.outcome_originKindIs (k : OriginKind) :
    Test.outcome r.row .originKindIs (.text k.name) = some true ↔ r.origin.kind = k := by
  change (Cell.text r.origin.kind.name).unlessNull (Cell.text r.origin.kind.name == .text k.name) =
    _ ↔ _
  simp [Cell.unlessNull, OriginKind.name_inj]

end

theorem forall_toList_map {α β : Type} (o : Option α) (g : α → β) (p : β → Prop) :
    (∀ b ∈ (o.map g).toList, p b) ↔ ∀ a, o = some a → p (g a) := by
  cases o <;> simp

/-- A row passes the tests of a filter when the filter selects its record. -/
theorem Filter.passes_iff (f : Filter) (r : Record) :
    (∀ b ∈ f.bound, b.1.outcome r.row b.2 = some true) ↔ f.Selects r := by
  simp only [Filter.bound, List.forall_mem_append, forall_toList_map, Test.outcome_methodIs,
    Test.outcome_urlHas, Test.outcome_statusAtLeast, Test.outcome_statusAtMost,
    Test.outcome_originKindIs]
  constructor
  · rintro ⟨⟨⟨⟨hm, hu⟩, hl⟩, hh⟩, ho⟩
    exact ⟨hm, hu, hl, hh, ho⟩
  · rintro ⟨hm, hu, hl, hh, ho⟩
    exact ⟨⟨⟨⟨hm, hu⟩, hl⟩, hh⟩, ho⟩

instance (f : Filter) (r : Record) : Decidable (f.Selects r) :=
  decidable_of_iff _ (f.passes_iff r)

def Filter.hits (f : Filter) (o : Order) (log : List Record) : List Record :=
  (log.filter fun r => f.Selects r).mergeSort fun a b => o.before a.id b.id

theorem Filter.hits_perm (f : Filter) (o : Order) (log : List Record) :
    (f.hits o log).Perm (log.filter fun r => f.Selects r) :=
  List.mergeSort_perm _ _

theorem Filter.length_hits_le (f : Filter) (o : Order) (log : List Record) :
    (f.hits o log).length ≤ log.length := by
  rw [(f.hits_perm o log).length_eq]
  exact List.length_filter_le _ _

theorem Table.Keeps.selected_eq {t : Table} {log : List Record} (h : t.Keeps log) (f : Filter) :
    t.selected f.bound = (log.filter fun r => f.Selects r).map Record.row := by
  rw [Table.selected, h.rows, List.filter_map]
  congr 1
  apply List.filter_congr
  intro r _
  rw [Bool.eq_iff_iff, decide_eq_true_iff, ← f.passes_iff r]
  simp [List.all_eq_true]

theorem Order.before_trans (o : Order) (a b c : PacketId) (hab : o.before a b = true)
    (hbc : o.before b c = true) : o.before a c = true := by
  cases o <;> simp only [Order.before, decide_eq_true_eq, UInt64.le_iff_toNat_le] at * <;> omega

theorem Order.before_total (o : Order) (a b : PacketId) : (o.before a b || o.before b a) = true := by
  cases o <;> simp only [Order.before, Bool.or_eq_true, decide_eq_true_eq,
    UInt64.le_iff_toNat_le] <;> omega

theorem Order.before_antisymm (o : Order) (a b : PacketId) (hab : o.before a b = true)
    (hba : o.before b a = true) : a = b := by
  cases o <;> simp only [Order.before, decide_eq_true_eq, UInt64.le_iff_toNat_le] at * <;>
    exact UInt64.toNat_inj.mp (by omega)

def Order.arrange (o : Order) (rs : List Record) : List Record :=
  match o with
  | .ascending => rs
  | .descending => rs.reverse

theorem Order.arrange_pairwise (o : Order) (rs : List Record)
    (h : rs.Pairwise fun a b => a.id < b.id) :
    (o.arrange rs).Pairwise fun a b => o.before a.id b.id = true := by
  cases o with
  | ascending => exact h.imp fun hab => by simpa [Order.before] using UInt64.le_of_lt hab
  | descending =>
    rw [Order.arrange, List.pairwise_reverse]
    exact h.imp fun hab => by simpa [Order.before] using UInt64.le_of_lt hab

theorem Order.arrange_perm (o : Order) (rs : List Record) : (o.arrange rs).Perm rs := by
  cases o with
  | ascending => exact List.Perm.refl rs
  | descending => exact List.reverse_perm rs

/-- Sorting a log by id only turns it around, if anything. -/
theorem Filter.hits_eq (f : Filter) (o : Order) (log : List Record)
    (h : log.Pairwise fun a b => a.id < b.id) :
    f.hits o log = o.arrange (log.filter fun r => f.Selects r) := by
  have hp := h.filter (fun r => decide (f.Selects r))
  have hs := f.hits_perm o log
  have hsorted : (f.hits o log).Pairwise fun a b => o.before a.id b.id = true :=
    List.pairwise_mergeSort (fun a b c => o.before_trans a.id b.id c.id)
      (fun a b => o.before_total a.id b.id) _
  refine List.Perm.eq_of_pairwise ?_ hsorted (o.arrange_pairwise _ hp)
    (hs.trans (o.arrange_perm _).symm)
  intro a b ha hb hab hba
  have ha : a ∈ log := (List.mem_filter.mp (hs.mem_iff.mp ha)).1
  have hb : b ∈ log := (List.mem_filter.mp ((o.arrange_perm _).mem_iff.mp hb)).1
  have he := find?_id log h a ha
  rw [o.before_antisymm a.id b.id hab hba, find?_id log h b hb] at he
  exact (Option.some.inj he).symm

theorem Table.inOrder_map (o : Order) (rs : List Record) :
    Table.inOrder o (rs.map Record.row) = (o.arrange rs).map Record.row := by
  cases o with
  | ascending => rfl
  | descending => exact List.map_reverse.symm

theorem Table.window_map (limit offset : Nat) (rs : List Record) :
    Table.window limit offset (rs.map Record.row) =
      ((rs.drop offset).take limit).map Record.row := by
  rw [Table.window, if_neg (by omega), Int.toNat_natCast, Int.toNat_natCast, List.map_take,
    List.map_drop]

theorem mapM_summary (rs : List Record) (h : ∀ r ∈ rs, r.toDraft.Whole) :
    (rs.map Record.row).mapM Row.summary = .ok (rs.map Record.summary) := by
  induction rs with
  | nil => rfl
  | cons r rs ih =>
    rw [List.map_cons, List.mapM_cons, Record.summary_row r (h r (by simp)),
      ih fun q hq => h q (by simp [hq])]
    rfl

def Page.of {α : Type} (page : Page) (rs : List α) : List α :=
  (rs.drop page.offset).take page.limit

theorem Page.mem_of_mem_of {α : Type} (page : Page) (rs : List α) (a : α) (h : a ∈ page.of rs) :
    a ∈ rs :=
  List.mem_of_mem_drop (List.mem_of_mem_take h)

def Page.read (page : Page) (total : Nat) (rows : List Row) : Except PacketError Listing :=
  match rows.mapM Row.summary with
  | .error cause => .error (.storage [cause])
  | .ok packets =>
    .ok {
      packets
      totalCount := total.toUInt64
      hasMore := Store.followedBy page.offset packets.length total
      limit := page.limit.toUInt64
      offset := page.offset.toUInt64 }

theorem Table.Keeps.list_eq {s : Store} {t : Table} {log : List Record} (ht : s.table = some t)
    (h : t.Keeps log) (page : Page) (f : Filter) (o : Order) :
    s.list page f o =
      page.read (f.hits o log).length ((page.of (f.hits o log)).map Record.row) := by
  have hsel := h.selected_eq f
  have hlen := (f.hits_perm o log).length_eq
  have hcount : t.countWhere f.tests f.params = some (f.hits o log).length := by
    have hb := f.bind_params []
    rw [List.append_nil] at hb
    simp only [Table.countWhere, hb, hsel, List.length_map, hlen]
  have hpage : t.pageWhere f.tests o (f.params ++ [.int page.limit, .int page.offset]) =
      some ((page.of (f.hits o log)).map Record.row) := by
    simp only [Table.pageWhere, f.bind_params, hsel, Table.inOrder_map, Table.window_map,
      f.hits_eq o log h.rising, Page.of]
  simp only [Store.list, ht, hcount, hpage]
  rfl

theorem Store.Holds.list_eq {s : Store} {log : List Record} (h : s.Holds log)
    (hw : ∀ r ∈ log, r.toDraft.Whole) (page : Page) (f : Filter) (o : Order) :
    s.list page f o = .ok {
      packets := (page.of (f.hits o log)).map Record.summary
      totalCount := (f.hits o log).length.toUInt64
      hasMore := Store.followedBy page.offset (page.of (f.hits o log)).length (f.hits o log).length
      limit := page.limit.toUInt64
      offset := page.offset.toUInt64 } := by
  obtain ⟨t, ht, hl⟩ := h.table
  have hmem : ∀ r ∈ page.of (f.hits o log), r.toDraft.Whole := by
    intro r hr
    have hr := page.mem_of_mem_of _ r hr
    exact hw r (List.mem_filter.mp ((f.hits_perm o log).mem_iff.mp hr)).1
  simp only [hl.keeps.list_eq ht, Page.read, mapM_summary _ hmem, List.length_map]

/-- Cutting a sum to 64 bits makes no difference, since no table has that many rows. -/
theorem Store.followedBy_iff (offset shown total : Nat) (h : total ≤ 0x7FFFFFFFFFFFFFFF) :
    Store.followedBy offset shown total = true ↔ offset + shown < total := by
  rw [Store.followedBy, decide_eq_true_iff, Store.maxUInt64]
  omega

/-- **A listing is the window of the selected records**, for every run of a store with any sizes of
its memory, every page, every filter and both orders. Its count is of all selected records, and it
says that more follow exactly when they do. -/
theorem Store.run_list (size : Nat → Nat) (ops : List StoreOp) (h : ∀ op ∈ ops, op.Timely)
    (page : Page) (f : Filter) (o : Order) :
    let hits := f.hits o (logged (Store.run size ops).1)
    ∃ l, (Store.run size ops).2.list page f o = .ok l ∧
      l.packets = ((hits.drop page.offset).take page.limit).map Record.summary ∧
      l.totalCount.toNat = hits.length ∧
      (l.hasMore = true ↔ page.offset + l.packets.length < l.totalCount.toNat) := by
  intro hits
  have hs := Store.run_holds size ops
  have hle : hits.length ≤ 0x7FFFFFFFFFFFFFFF :=
    Nat.le_trans (f.length_hits_le o _) hs.length_le
  have htotal : hits.length.toUInt64.toNat = hits.length :=
    UInt64.toNat_ofNat_of_lt (by change _ < 0x10000000000000000; omega)
  refine ⟨_, hs.list_eq (Store.run_whole size ops h) page f o, rfl, htotal, ?_⟩
  change Store.followedBy _ _ hits.length = true ↔ _ + _ < hits.length.toUInt64.toNat
  rw [Store.followedBy_iff _ _ _ hle, htotal, List.length_map]

/-- Five packets, of which three are selected; a page shows the second of them and says that another
follows. -/
theorem Store.run_list_window :
    let ops := [StoreOp.append (.bare "/a") none, .append (.bare "/b") none,
      .append { Draft.bare "/aa" with method := .post } none, .append (.bare "/xA") none,
      .append (.bare "/ay") none]
    let f : Filter := { Filter.all with method := some .get, urlContains := some "A" }
    ∃ l, (Store.run (fun _ => 2) ops).2.list ⟨1, 1, by decide⟩ f .descending = .ok l ∧
      l.packets = [((Draft.bare "/xA").withId 4).summary] ∧ l.totalCount.toNat = 3 ∧
      l.hasMore = true := by
  intro ops f
  have hhits : f.hits .descending (logged (Store.run (fun _ => 2) ops).1) =
      [(Draft.bare "/ay").withId 5, (Draft.bare "/xA").withId 4, (Draft.bare "/a").withId 1] := by
    rw [f.hits_eq _ _ (by decide +kernel +revert)]
    decide +kernel +revert
  have ht : ∀ op ∈ ops, op.Timely := by
    intro op hop
    simp only [ops, List.mem_cons, List.not_mem_nil, or_false] at hop
    rcases hop with rfl | rfl | rfl | rfl | rfl
    all_goals
      change Draft.Timely _
      decide
  obtain ⟨l, hl, hpackets, htotal, hmore⟩ :=
    Store.run_list (fun _ => 2) ops ht ⟨1, 1, by decide⟩ f .descending
  rw [hhits] at hpackets htotal
  refine ⟨l, hl, hpackets, htotal, hmore.mpr ?_⟩
  rw [hpackets, htotal]
  decide

end PacketReplay
