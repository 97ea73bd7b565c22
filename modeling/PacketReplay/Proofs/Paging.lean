import PacketReplay.Proofs.Accounting
import PacketReplay.Proofs.Listing

set_option autoImplicit false

namespace PacketReplay

/-- The rows of a store are those of records whose times have been cut. -/
structure Store.Keeps (s : Store) (log : List Record) : Prop where
  table : ∃ t, s.table = some t ∧ t.Keeps log
  cut : ∀ r ∈ log, r.toDraft.cut = r.toDraft

namespace Store.Keeps

variable {s : Store} {log : List Record} (h : s.Keeps log)

include h

theorem of_table (s' : Store) (ht : s'.table = s.table) : s'.Keeps log where
  table := by
    rw [ht]
    exact h.table
  cut := h.cut

theorem insert (d : Draft) (r : Record) (s' : Store) (hi : s.insert d = .ok (r, s')) :
    s'.Keeps (log ++ [r]) := by
  obtain ⟨t, ht, hk⟩ := h.table
  obtain ⟨hf, rfl, rfl⟩ := hk.of_insert ht d r s' hi
  refine ⟨⟨_, rfl, hk.insert_keeps hf d.cut⟩, ?_⟩
  intro q hq
  rw [List.mem_append, List.mem_singleton] at hq
  rcases hq with hq | rfl
  · exact h.cut q hq
  · exact Draft.cut_cut d

theorem delete (n : Int) : Store.Keeps { s with table := s.table.map fun t => (t.delete n).2 }
    (log.filter fun r => (r.id.toNat : Int) != n) where
  table := by
    obtain ⟨t, ht, hk⟩ := h.table
    exact ⟨(t.delete n).2, congrArg (Option.map fun t => (t.delete n).2) ht, hk.delete n⟩
  cut := fun r hr => h.cut r (List.mem_filter.mp hr).1

theorem eq_of_prefix (log' : List Record) (s' : Store) (h' : s'.Keeps log')
    (ht : s'.table = s.table) (hlog : log <+: log') : log' = log := by
  obtain ⟨t, hs, hk⟩ := h.table
  obtain ⟨t', hs', hk'⟩ := h'.table
  have htable : t' = t := by
    rw [hs, hs'] at ht
    exact Option.some.inj ht
  have hlength := congrArg List.length hk'.rows
  rw [htable, hk.rows, List.length_map, List.length_map] at hlength
  exact (hlog.eq_of_length hlength).symm

end Store.Keeps

theorem logged_cut (trace : List (StoreOp × StoreAnswer)) :
    ∀ r ∈ logged trace, r.toDraft.cut = r.toDraft := by
  intro r hr
  obtain ⟨⟨op, a⟩, hp, hm⟩ := List.mem_filterMap.mp hr
  split at hm
  · cases hm
    exact Draft.cut_cut _
  · cases hm

theorem Store.run_keeps (size : Nat → Nat) (ops : List StoreOp) :
    (Store.run size ops).2.Keeps (logged (Store.run size ops).1) where
  table := by
    obtain ⟨t, ht, hl⟩ := (Store.run_holds size ops).table
    exact ⟨t, ht, hl.keeps⟩
  cut := logged_cut _

section

variable (ids : Nat → JobId)

theorem World.step_keeps (w : World) (e : Event) (log : List Record) (h : w.store.Keeps log) :
    ∃ new, (w.step ids e).2.store.Keeps (log ++ new) := by
  rcases w.step_table ids e with ht | ⟨d, r, s, hi, ht⟩
  · refine ⟨[], ?_⟩
    rw [List.append_nil]
    exact h.of_table _ ht
  · exact ⟨[r], (h.insert d r s hi).of_table _ ht⟩

theorem World.run_keeps (es : List Event) (w : World) (log : List Record) (h : w.store.Keeps log) :
    ∃ new, (World.run ids w es).2.store.Keeps (log ++ new) := by
  induction es generalizing w log with
  | nil => exact ⟨[], by rw [List.append_nil]; exact h⟩
  | cons e es ih =>
    obtain ⟨new, hstep⟩ := w.step_keeps ids e log h
    obtain ⟨more, hrun⟩ := ih (w.step ids e).2 (log ++ new) hstep
    refine ⟨new ++ more, ?_⟩
    rw [← List.append_assoc]
    exact hrun

end

theorem World.Reachable.keeps {ids : Nat → JobId} {w : World} (hw : w.Reachable ids) :
    ∃ log, w.store.Keeps log := by
  induction hw with
  | start service size ops hs =>
    have hstore : (World.start service).store = (Store.run size ops).2 := by
      change service.coordinator.store = _
      rw [hs]
      rfl
    rw [hstore]
    exact ⟨_, Store.run_keeps size ops⟩
  | next w _ e ih =>
    obtain ⟨log, h⟩ := ih
    obtain ⟨new, hstep⟩ := w.step_keeps ids e log h
    exact ⟨_, hstep⟩

def Filter.chosen (f : Filter) (log : List Record) : List Record :=
  log.filter fun r => f.Selects r

theorem Filter.chosen_prefix (f : Filter) (log new : List Record) :
    f.chosen log <+: f.chosen (log ++ new) := by
  rw [chosen, chosen, List.filter_append]
  exact List.prefix_append _ _

theorem mapM_summary_ok (rs : List Record) (hcut : ∀ r ∈ rs, r.toDraft.cut = r.toDraft)
    (ss : List Summary) (h : (rs.map Record.row).mapM Row.summary = .ok ss) :
    ss = rs.map Record.summary := by
  induction rs generalizing ss with
  | nil => exact (Except.ok.inj h).symm
  | cons r rs ih =>
    rw [List.map_cons, List.mapM_cons] at h
    cases hr : r.row.summary with
    | error e =>
      rw [hr] at h
      cases h
    | ok s =>
      cases hrs : (rs.map Record.row).mapM Row.summary with
      | error e =>
        rw [hr, hrs] at h
        cases h
      | ok rest =>
        rw [hr, hrs] at h
        cases h
        rw [List.map_cons, (r.of_summary_row (hcut r (by simp)) s hr).2,
          ih (fun q hq => hcut q (by simp [hq])) rest hrs]

namespace Store.Keeps

variable {s : Store} {log : List Record} (h : s.Keeps log)

include h

theorem rising : log.Pairwise fun a b => a.id < b.id := by
  obtain ⟨t, -, hk⟩ := h.table
  exact hk.rising

theorem length_chosen_le (f : Filter) : (f.chosen log).length ≤ 0x7FFFFFFFFFFFFFFF := by
  obtain ⟨t, -, hk⟩ := h.table
  exact (List.length_filter_le _ _).trans hk.length_le

theorem list_eq (page : Page) (f : Filter) : s.list page f .ascending =
    page.read (f.chosen log).length ((page.of (f.chosen log)).map Record.row) := by
  obtain ⟨t, ht, hk⟩ := h.table
  have hhits : f.hits .ascending log = f.chosen log := f.hits_eq .ascending log hk.rising
  rw [hk.list_eq ht, hhits]

theorem of_list (page : Page) (f : Filter) (l : Listing) (hl : s.list page f .ascending = .ok l) :
    l.packets = (page.of (f.chosen log)).map Record.summary ∧
      (l.hasMore = true ↔ page.offset + l.packets.length < (f.chosen log).length) := by
  rw [h.list_eq, Page.read] at hl
  have hcut : ∀ r ∈ page.of (f.chosen log), r.toDraft.cut = r.toDraft := by
    intro r hr
    exact h.cut r (List.mem_filter.mp (page.mem_of_mem_of _ r hr)).1
  cases hm : ((page.of (f.chosen log)).map Record.row).mapM Row.summary with
  | error cause =>
    rw [hm] at hl
    cases hl
  | ok packets =>
    rw [hm] at hl
    cases hl
    exact ⟨mapM_summary_ok _ hcut packets hm,
      Store.followedBy_iff _ _ _ (h.length_chosen_le f)⟩

theorem list_exists (page : Page) (f : Filter)
    (hw : ∀ r ∈ page.of (f.chosen log), r.toDraft.Whole) :
    ∃ l, s.list page f .ascending = .ok l := by
  rw [h.list_eq, Page.read, mapM_summary _ hw]
  exact ⟨_, rfl⟩

theorem list_error (page : Page) (f : Filter) (r : Record) (rs : List Record)
    (hpage : page.of (f.chosen log) = r :: rs) (cause : String)
    (hr : r.row.summary = .error cause) :
    s.list page f .ascending = .error (.storage [cause]) := by
  rw [h.list_eq, Page.read, hpage, List.map_cons, List.mapM_cons, hr]
  rfl

end Store.Keeps

/-- How many pages of a limit show a number of records; there is always one. -/
def pagesFor (limit m : Nat) : Nat :=
  max 1 ((m + limit - 1) / limit)

theorem pagesFor_le_iff (limit m k : Nat) (hpos : 0 < limit) :
    pagesFor limit m ≤ k + 1 ↔ m ≤ (k + 1) * limit := by
  have hdiv := Nat.div_le_iff_le_mul_add_pred hpos (a := m + limit - 1) (c := k + 1)
  rw [Nat.mul_comm limit] at hdiv
  rw [pagesFor, Nat.max_le, hdiv]
  omega

theorem le_pagesFor (limit m k : Nat) (hpos : 0 < limit) (hk : k = 0 ∨ k * limit < m) :
    k + 1 ≤ pagesFor limit m := by
  rw [pagesFor]
  rcases hk with rfl | hk
  · exact Nat.le_max_left _ _
  · have hdiv := Nat.le_div_iff_mul_le hpos (x := k + 1) (y := m + limit - 1)
    rw [Nat.succ_mul] at hdiv
    exact (hdiv.mpr (by omega)).trans (Nat.le_max_right _ _)

def packetsOn (ls : List Listing) : List Summary :=
  ls.flatMap Listing.packets

theorem packetsOn_concat (ls : List Listing) (l : Listing) :
    packetsOn (ls ++ [l]) = packetsOn ls ++ l.packets := by
  simp [packetsOn]

section

variable (ids : Nat → JobId) (limit : Nat) (hlimit : limit ≤ maxPageLimit) (f : Filter)
  (w₀ : World)

/-- A walk from a world: the pages before the last, the last page, and the world in which it was
read. As long as more follow, the next page is asked for after as many packets as were shown. Any
events come in between. -/
inductive World.Walk : List Listing → Listing → World → Prop where
  | first (l : Listing) (h : w₀.store.list ⟨limit, 0, hlimit⟩ f .ascending = .ok l) :
    Walk [] l w₀
  | next (ls : List Listing) (l : Listing) (w : World) (h : Walk ls l w) (hmore : l.hasMore = true)
      (es : List Event) (l' : Listing)
      (hl : (World.run ids w es).2.store.list ⟨limit, (packetsOn (ls ++ [l])).length, hlimit⟩ f
        .ascending = .ok l') :
    Walk (ls ++ [l]) l' (World.run ids w es).2

end

/-- Where a walk stands, by the log of the moment of its last page. -/
structure World.Stands (limit : Nat) (f : Filter) (log : List Record) (ls : List Listing)
    (l : Listing) : Prop where
  shown : packetsOn (ls ++ [l]) = ((f.chosen log).take ((ls.length + 1) * limit)).map Record.summary
  more : l.hasMore = true ↔ (ls.length + 1) * limit < (f.chosen log).length
  needed : ls = [] ∨ ls.length * limit < (f.chosen log).length

section

variable {ids : Nat → JobId} {limit : Nat} {hlimit : limit ≤ maxPageLimit} {f : Filter}
  {w₀ : World} {log₀ log : List Record} {ls : List Listing} {l : Listing} {w : World}

theorem World.Stands.length_shown (h : World.Stands limit f log ls l) (hmore : l.hasMore = true) :
    (packetsOn (ls ++ [l])).length = (ls.length + 1) * limit := by
  rw [h.shown, List.length_map, List.length_take]
  exact Nat.min_eq_left (Nat.le_of_lt (h.more.mp hmore))

theorem World.Stands.next (h : World.Stands limit f log ls l) (hmore : l.hasMore = true)
    (new : List Record) (s : Store) (hs : s.Keeps (log ++ new)) (l' : Listing)
    (hl : s.list ⟨limit, (packetsOn (ls ++ [l])).length, hlimit⟩ f .ascending = .ok l') :
    World.Stands limit f (log ++ new) (ls ++ [l]) l' := by
  obtain ⟨hpackets, hmore'⟩ := hs.of_list _ f l' hl
  have hlt := h.more.mp hmore
  have hprefix := f.chosen_prefix log new
  have hle := hprefix.length_le
  -- What was added comes after all that was shown.
  have hbefore : (f.chosen log).take ((ls.length + 1) * limit) =
      (f.chosen (log ++ new)).take ((ls.length + 1) * limit) := by
    obtain ⟨more, hm⟩ := hprefix
    rw [← hm, List.take_append_of_le_length (Nat.le_of_lt hlt)]
  have hlength : (ls ++ [l]).length = ls.length + 1 := by simp
  -- More follow, so the pages before are full and the offset is a multiple of the limit.
  rw [h.length_shown hmore] at hpackets hmore'
  refine ⟨?_, ?_, ?_⟩
  · rw [packetsOn_concat, h.shown, hpackets, hbefore, ← List.map_append, hlength,
      Nat.succ_mul (ls.length + 1), List.take_add]
    rfl
  · rw [hmore', hpackets, List.length_map, hlength, Nat.succ_mul (ls.length + 1)]
    simp only [Page.of, List.length_take, List.length_drop]
    omega
  · rw [hlength]
    exact .inr (hlt.trans_le hle)

theorem World.Stands.first (h₀ : w₀.store.Keeps log₀)
    (hl : w₀.store.list ⟨limit, 0, hlimit⟩ f .ascending = .ok l) :
    World.Stands limit f log₀ [] l := by
  obtain ⟨hpackets, hmore⟩ := h₀.of_list _ f l hl
  refine ⟨?_, ?_, .inl rfl⟩
  · rw [packetsOn_concat, hpackets, List.length_nil, Nat.zero_add, Nat.one_mul]
    rfl
  · rw [hmore, hpackets, List.length_map, List.length_nil, Nat.zero_add, Nat.one_mul]
    simp only [Page.of, List.length_take, List.drop_zero]
    omega

theorem World.Walk.stands (h : World.Walk ids limit hlimit f w₀ ls l w)
    (h₀ : w₀.store.Keeps log₀) :
    ∃ log, w.store.Keeps log ∧ log₀ <+: log ∧ World.Stands limit f log ls l := by
  induction h with
  | first l hl => exact ⟨log₀, h₀, List.prefix_refl _, .first h₀ hl⟩
  | next ls l w _ hmore es l' hl ih =>
    obtain ⟨log, hw, hlog, hstands⟩ := ih
    obtain ⟨new, hrun⟩ := w.run_keeps ids es log hw
    exact ⟨log ++ new, hrun, hlog.trans (List.prefix_append _ _),
      hstands.next hmore new _ hrun l' hl⟩

theorem World.Stands.pages (h : World.Stands limit f log ls l) (hpos : 0 < limit) :
    ls.length + 1 ≤ pagesFor limit (f.chosen log).length ∧
      (l.hasMore = false ↔ ls.length + 1 = pagesFor limit (f.chosen log).length) := by
  have hle : ls.length + 1 ≤ pagesFor limit (f.chosen log).length := by
    apply le_pagesFor limit _ _ hpos
    exact h.needed.imp_left fun hnil => by rw [hnil, List.length_nil]
  refine ⟨hle, ?_⟩
  rw [← Bool.not_eq_true, h.more, Nat.not_lt, ← pagesFor_le_iff limit _ _ hpos]
  exact ⟨fun hge => Nat.le_antisymm hle hge, fun he => Nat.le_of_eq he.symm⟩

theorem World.Stands.all_shown (h : World.Stands limit f log ls l) (hmore : l.hasMore = false) :
    packetsOn (ls ++ [l]) = (f.chosen log).map Record.summary := by
  rw [h.shown, List.take_of_length_le]
  rw [← Nat.not_lt, ← h.more, hmore]
  exact Bool.false_ne_true

theorem World.Stands.shown_prefix (h : World.Stands limit f log ls l) :
    packetsOn (ls ++ [l]) <+: (f.chosen log).map Record.summary := by
  rw [h.shown]
  exact (List.take_prefix _ _).map _

theorem World.Stands.rising (h : World.Stands limit f log ls l)
    (hlog : log.Pairwise fun a b => a.id < b.id) :
    (packetsOn (ls ++ [l])).Pairwise fun a b => a.id < b.id := by
  rw [h.shown, List.pairwise_map]
  exact (hlog.filter _).sublist (List.take_sublist _ _)

theorem World.Walk.goes_on (h : World.Walk ids limit hlimit f w₀ ls l w) (hmore : l.hasMore = true)
    (es : List Event) (hrun : (World.run ids w es).2.store.Keeps log)
    (hw : ∀ r ∈ f.chosen log, r.toDraft.Whole) :
    ∃ l', World.Walk ids limit hlimit f w₀ (ls ++ [l]) l' (World.run ids w es).2 := by
  obtain ⟨l', hl'⟩ := hrun.list_exists ⟨limit, (packetsOn (ls ++ [l])).length, hlimit⟩ f
    fun r hr => hw r (Page.mem_of_mem_of _ _ r hr)
  exact ⟨l', .next ls l w h hmore es l' hl'⟩

theorem World.Walk.exists_pages (h₀ : w₀.store.Keeps log₀)
    (hw : ∀ r ∈ f.chosen log₀, r.toDraft.Whole) (hpos : 0 < limit) (k : Nat)
    (hk : k < pagesFor limit (f.chosen log₀).length) :
    ∃ ls l, World.Walk ids limit hlimit f w₀ ls l w₀ ∧ ls.length = k := by
  induction k with
  | zero =>
    obtain ⟨l, hl⟩ := h₀.list_exists ⟨limit, 0, hlimit⟩ f
      fun r hr => hw r (Page.mem_of_mem_of _ _ r hr)
    exact ⟨[], l, .first l hl, rfl⟩
  | succ k ih =>
    obtain ⟨ls, l, hwalk, rfl⟩ := ih (Nat.lt_of_succ_lt hk)
    -- The world is the one of the first page, so the walk stands in the same log.
    obtain ⟨log, hlog, hprefix, hstands⟩ := hwalk.stands h₀
    have hsame : log = log₀ := h₀.eq_of_prefix log _ hlog rfl hprefix
    have hmore : l.hasMore = true := by
      rw [hsame] at hstands
      rw [← Bool.not_eq_false, (hstands.pages hpos).2]
      exact Nat.ne_of_lt hk
    obtain ⟨l', hnext⟩ := hwalk.goes_on hmore [] h₀ hw
    exact ⟨ls ++ [l], l', hnext, by simp⟩

end

theorem Filter.chosen_all (log : List Record) : Filter.all.chosen log = log := by
  have hall : ∀ r, Filter.all.Selects r := fun r => by constructor <;> simp [Filter.all]
  rw [chosen, List.filter_eq_self]
  intro r _
  exact decide_eq_true (hall r)

/-- Four packets, the second of which another program has deleted. -/
def Store.withGap : Store :=
  let s := (Store.run (fun _ => 1) [.append (.bare "/a") none, .append (.bare "/b") none,
    .append (.bare "/c") none, .append (.bare "/d") none]).2
  { s with table := s.table.map fun t => (t.delete 2).2 }

theorem Store.withGap_keeps : Store.withGap.Keeps
    [(Draft.bare "/a").withId 1, (Draft.bare "/c").withId 3, (Draft.bare "/d").withId 4] :=
  (Store.run_keeps _ _).delete 2

def Instant.last : Instant :=
  ⟨lastSecond, 1000000000, by decide⟩

def Store.withLast : Store :=
  (Store.run (fun _ => 1)
    [.append (.bare "/a") none, .append { Draft.bare "/b" with timestamp := .last } none]).2

/-- **A walk shows every selected packet once.** Let the rows of a store be those of records, some of
which may have been deleted, and let any events happen between the pages. What is shown has rising
ids and leaves nothing out. When nothing follows, it is what the filter selects of the log at the
last page, and this is so after exactly as many pages as that takes. Until then the next page is
answered, as long as what the filter selects can be read back. -/
theorem World.walk_shows_chosen (ids : Nat → JobId) (limit : Nat) (hpos : 0 < limit)
    (hlimit : limit ≤ maxPageLimit) (f : Filter) (w₀ : World) (log₀ : List Record)
    (h₀ : w₀.store.Keeps log₀) :
    (∀ ls l w, World.Walk ids limit hlimit f w₀ ls l w → ∃ log, w.store.Keeps log ∧ log₀ <+: log ∧
      (w.store.table = w₀.store.table → log = log₀) ∧
      (packetsOn (ls ++ [l])).Pairwise (fun a b => a.id < b.id) ∧
      packetsOn (ls ++ [l]) <+: (f.chosen log).map Record.summary ∧
      (l.hasMore = false → packetsOn (ls ++ [l]) = (f.chosen log).map Record.summary) ∧
      ls.length + 1 ≤ pagesFor limit (f.chosen log).length ∧
      (l.hasMore = false ↔ ls.length + 1 = pagesFor limit (f.chosen log).length) ∧
      (l.hasMore = true → ∀ es, ∃ new, (World.run ids w es).2.store.Keeps (log ++ new) ∧
        ((∀ r ∈ f.chosen (log ++ new), r.toDraft.Whole) →
          ∃ l', World.Walk ids limit hlimit f w₀ (ls ++ [l]) l' (World.run ids w es).2))) ∧
    ((∀ r ∈ f.chosen log₀, r.toDraft.Whole) → ∃ ls l, World.Walk ids limit hlimit f w₀ ls l w₀ ∧
      l.hasMore = false ∧ ls.length + 1 = pagesFor limit (f.chosen log₀).length) := by
  constructor
  · intro ls l w hwalk
    obtain ⟨log, hw, hprefix, hstands⟩ := hwalk.stands h₀
    obtain ⟨hle, hstop⟩ := hstands.pages hpos
    refine ⟨log, hw, hprefix, fun ht => h₀.eq_of_prefix log _ hw ht hprefix,
      hstands.rising hw.rising, hstands.shown_prefix, hstands.all_shown, hle, hstop, ?_⟩
    intro hmore es
    obtain ⟨new, hrun⟩ := w.run_keeps ids es log hw
    exact ⟨new, hrun, hwalk.goes_on hmore es hrun⟩
  · intro hw
    have hpages : 0 < pagesFor limit (f.chosen log₀).length := le_pagesFor limit _ 0 hpos (.inl rfl)
    obtain ⟨ls, l, hwalk, hlength⟩ := World.Walk.exists_pages h₀ hw hpos
      (pagesFor limit (f.chosen log₀).length - 1) (Nat.sub_one_lt_of_lt hpages)
    obtain ⟨log, hlog, hprefix, hstands⟩ := hwalk.stands h₀
    have hsame : log = log₀ := h₀.eq_of_prefix log _ hlog rfl hprefix
    rw [hsame] at hstands
    have hlast : ls.length + 1 = pagesFor limit (f.chosen log₀).length := by omega
    exact ⟨ls, l, hwalk, (hstands.pages hpos).2.mpr hlast, hlast⟩

/-- Two pages of two packets each. The last packet is added after the first page. -/
theorem World.walk_shows_chosen_gap : ∃ l₁ l₂ w,
    World.Walk strokes 2 (by decide) .all (World.start (.over .withGap)) [l₁] l₂ w ∧
      l₂.hasMore = false ∧ (packetsOn [l₁, l₂]).map Summary.id = [1, 3, 4, 5] ∧
      (packetsOn [l₁, l₂]).Pairwise fun a b => a.id < b.id := by
  have hkeeps₀ : (World.start (.over .withGap)).store.Keeps _ := Store.withGap_keeps
  have hkeeps : (World.run strokes (World.start (.over .withGap))
      [.ask 0 (.append (.bare "/e") none)]).2.store.Keeps (_ ++ [(Draft.bare "/e").withId 5]) :=
    (hkeeps₀.insert (.bare "/e") _ _ rfl).of_table _ rfl
  obtain ⟨l₁, h₁⟩ := hkeeps₀.list_exists ⟨2, 0, by decide⟩ .all (by
    rw [Filter.chosen_all]
    decide)
  have hstands₁ := World.Stands.first hkeeps₀ h₁
  have hmore : l₁.hasMore = true := hstands₁.more.mpr (by rw [Filter.chosen_all]; decide)
  obtain ⟨l₂, h₂⟩ := hkeeps.list_exists ⟨2, (packetsOn [l₁]).length, by decide⟩ .all (by
    rw [Filter.chosen_all]
    exact fun r hr => (by decide : ∀ q ∈ _, Draft.Whole (Record.toDraft q)) r
      (Page.mem_of_mem_of _ _ r hr))
  have hwalk := World.Walk.next [] l₁ (World.start (.over .withGap)) (.first l₁ h₁) hmore _ l₂ h₂
  have hstands₂ := hstands₁.next hmore _ _ hkeeps l₂ h₂
  have hlast : l₂.hasMore = false := by
    rw [(hstands₂.pages Nat.two_pos).2, Filter.chosen_all]
    simp [pagesFor]
  obtain ⟨-, -, -, -, hrising, -⟩ := (World.walk_shows_chosen strokes 2 Nat.two_pos (by decide) .all
    (World.start (.over .withGap)) _ hkeeps₀).1 [l₁] l₂ _ hwalk
  refine ⟨l₁, l₂, _, hwalk, hlast, ?_, hrising⟩
  have hall := hstands₂.all_shown hlast
  rw [Filter.chosen_all] at hall
  exact congrArg (List.map Summary.id) hall

/-- A page with a record of the last leap second is refused, so a walk does not get past it. -/
theorem World.walk_refused : ∃ l,
    World.Walk strokes 1 (by decide) .all (World.start (.over .withLast)) [] l
        (World.start (.over .withLast)) ∧
      l.hasMore = true ∧ (packetsOn [l]).length = 1 ∧
      Store.withLast.count = .ok 2 ∧
      Store.withLast.list ⟨1, 1, by decide⟩ .all .ascending =
        .error (.storage ["invalid stored timestamp 8210266876800000"]) := by
  have hkeeps : (World.start (.over .withLast)).store.Keeps
      [(Draft.bare "/a").withId 1, { Draft.bare "/b" with timestamp := .last }.withId 2] :=
    Store.run_keeps _ _
  obtain ⟨l, hl⟩ := hkeeps.list_exists ⟨1, 0, by decide⟩ .all (by
    rw [Filter.chosen_all]
    exact List.forall_mem_singleton.mpr rfl)
  have hstands := World.Stands.first hkeeps hl
  have hmore : l.hasMore = true := hstands.more.mpr (by rw [Filter.chosen_all]; decide)
  refine ⟨l, .first l hl, hmore, hstands.length_shown hmore, rfl, ?_⟩
  refine hkeeps.list_error _ _ ({ Draft.bare "/b" with timestamp := .last }.withId 2) [] ?_ _ ?_
  · rw [Filter.chosen_all]
    rfl
  · rw [Record.summary_row_eq]
    rfl

end PacketReplay
