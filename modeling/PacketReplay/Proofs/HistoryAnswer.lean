import PacketReplay.Proofs.HistoryRequest
import PacketReplay.Proofs.StoredPackets

set_option autoImplicit false

namespace PacketReplay

namespace HistoryParams

variable (p : HistoryParams)

/-- Records are those that a request selects of the stored ones, each once and in its order. -/
structure Ranks (stored : Record → Prop) (hits : List Record) : Prop where
  mem : ∀ r, r ∈ hits ↔ stored r ∧ p.Selects r
  ascending : ¬ p.Descends → hits.Pairwise fun a b => a.id < b.id
  descending : p.Descends → hits.Pairwise fun a b => b.id < a.id

/-- A listing shows the window of some records that a request asks for. -/
structure Shows (hits : List Record) (l : Listing) : Prop where
  packets : l.packets =
    ((hits.drop (p.offset.getD 0).toNat).take (p.limit.getD 100).toNat).map Record.summary
  totalCount : l.totalCount.toNat = hits.length
  hasMore : l.hasMore = true ↔ (p.offset.getD 0).toNat + l.packets.length < hits.length
  limit : (l.limit.toNat : Int) = p.limit.getD 100
  offset : (l.offset.toNat : Int) = p.offset.getD 0

variable {p} {page : Page} {f : Filter} {o : Order} (h : p.Means page f o)

include h

theorem Means.ranks {s : Store} {log : List Record} (hs : s.Archives log) (hread : s.Readable) :
    p.Ranks s.Stores (f.hits o log) := by
  obtain ⟨t, -, hl⟩ := hs.holds.table
  have hrising := hl.rising.filter fun r => decide (f.Selects r)
  refine ⟨fun r => ?_, fun hup => ?_, fun hdown => ?_⟩
  · rw [(f.hits_perm o log).mem_iff, List.mem_filter, decide_eq_true_iff, h.selects,
      hs.stores_iff hread]
  · have ho : o = .ascending := by
      cases o with
      | ascending => rfl
      | descending => exact absurd (h.order.mp rfl) hup
    rw [f.hits_eq o log hl.rising, ho]
    exact hrising
  · rw [f.hits_eq o log hl.rising, h.order.mpr hdown]
    exact List.pairwise_reverse.mpr hrising

/-- **A store lists what a request asks for.** -/
theorem Means.shows (hoffset : p.offset.getD 0 < 2 ^ 63) {s : Store} {log : List Record}
    (hs : s.Archives log) (hread : s.Readable) :
    ∃ l, s.list page f o = .ok l ∧ p.Shows (f.hits o log) l := by
  have hlimit : (p.limit.getD 100).toNat = page.limit := by
    rw [← h.limit, Int.toNat_natCast]
  have hskip : (p.offset.getD 0).toNat = page.offset := by
    rw [← h.offset, Int.toNat_natCast]
  have hle : (f.hits o log).length ≤ 0x7FFFFFFFFFFFFFFF :=
    (f.length_hits_le o log).trans hs.holds.length_le
  refine ⟨_, hs.holds.list_eq (hs.whole hread) page f o, ?_, ?_, ?_, ?_, ?_⟩
  · rw [hlimit, hskip]
    rfl
  · change (f.hits o log).length % 2 ^ 64 = _
    omega
  · change Store.followedBy page.offset _ _ = true ↔ _
    rw [Store.followedBy_iff _ _ _ hle, hskip, List.length_map]
  · have hmax := page.limit_le
    change ((page.limit % 2 ^ 64 : Nat) : Int) = _
    change page.limit ≤ 1000 at hmax
    rw [← h.limit]
    omega
  · have hin := h.offset
    change ((page.offset % 2 ^ 64 : Nat) : Int) = _
    rw [← h.offset] at hoffset ⊢
    omega

end HistoryParams

/-- **A listing request is validated exactly and then answered exactly.** A caller of any reachable
world asks for a page of packets, and anything may happen before the table is looked at. There is one
answer at most. It is that an argument is wrong if and only if the request is not valid. If it is
valid, the answer is the window it asks for of the packets that are stored at the look and that it
selects, by id in the order it asks for, with their number, whether more follow, and the limit and
the offset of the request. -/
theorem history_validates_and_lists (ids : Nat → JobId) (w : World) (hw : w.Reachable ids)
    (key : Nat) (hkey : w.calls key = none) (p : HistoryParams) (hoffset : p.offset.getD 0 < 2 ^ 63)
    (es : List Event) (hes : ∀ e ∈ es, e.key? ≠ some key)
    (hread : (World.run ids w (.ask key (.history p) :: es)).2.store.Readable) :
    let stored := (World.run ids w (.ask key (.history p) :: es)).2.store.Stores
    let all := .ask key (.history p) :: (es ++ [.advance key])
    let answers := World.told key (World.run ids w all).1
    (∀ a a', some a ∈ answers → some a' ∈ answers → a = a') ∧
    ((∃ fault, some (.history (.error (.invalidArgument fault))) ∈ answers) ↔ ¬ p.Valid) ∧
    (p.Valid → ∃ l hits, some (.history (.ok l)) ∈ answers ∧ p.Ranks stored hits ∧
      p.Shows hits l) := by
  intro stored all answers
  refine ⟨w.told_once ids key all, ?_⟩
  have hrun := fun es => w.run_ask ids key hkey (.history p) es
  have hanswers : answers = _ := (hrun (es ++ [.advance key])).1
  have hstored : stored = _ := congrArg (fun u : World => u.store.Stores) (hrun es).2
  rw [hanswers, hstored]
  rw [(hrun es).2] at hread
  have hreach := hw.run (.ask key (.history p) :: es)
  rw [(hrun es).2] at hreach
  have hquery := p.query_checked
  cases hq : p.query with
  | error e =>
    have hstart : w.service.start (.history p) = w.service.tell (.history (.error e)) := by
      simp only [Service.start, hq]
    rw [hq] at hquery
    cases hquery with
    | error fault hinvalid =>
      rw [hstart]
      exact ⟨⟨fun _ => hinvalid, fun _ => ⟨fault, List.mem_cons_self⟩⟩, fun h => absurd h hinvalid⟩
  | ok q =>
    obtain ⟨page, f, o⟩ := q
    have hstart : w.service.start (.history p) = w.service.goOn (.listing page f o) := by
      simp only [Service.start, hq]
    rw [hq] at hquery
    cases hquery with
    | ok _ hvalid hmeans =>
      rw [hstart] at hread hreach ⊢
      generalize hv : w.turn key (w.service.goOn (.listing page f o)) = v at hread hreach ⊢
      have hcall : v.calls key = some (.listing page f o) := by
        rw [← hv]
        exact w.turn_calls_self key _
      obtain ⟨log, hsound, hcut⟩ := hreach.sound_cut
      have harchive : (World.run ids v es).2.store.Archives log := ⟨hsound.holds, hcut⟩
      obtain ⟨l, hl, hshows⟩ := hmeans.shows hoffset harchive hread
      have hanswer : ((World.run ids v es).2.service.resume ids (.listing page f o)).answer =
          some (.history (.ok l)) := congrArg (fun r => some (Answer.history r)) hl
      rw [(v.run_advance ids key _ hcall es hes []).1, hanswer]
      refine ⟨⟨?_, fun h => absurd hvalid h⟩, fun _ =>
        ⟨l, _, ?_, hmeans.ranks harchive hread, hshows⟩⟩
      · simp [Service.goOn, World.run, World.told]
      · simp

def HistoryParams.spelled : HistoryParams :=
  ⟨some 1000, none, some " get\n", some "", none, none, some " ", some "ID  Desc"⟩

def HistoryParams.crossed : HistoryParams :=
  ⟨none, none, none, none, some 500, some 499, none, none⟩

theorem HistoryParams.spelled_valid : HistoryParams.spelled.Valid where
  limit := by decide
  offset := by decide
  method := by
    rintro text ⟨⟩
    exact ⟨.get, (Method.named_iff .get _).mpr (by decide +kernel)⟩
  origin := by
    rintro text ⟨⟩
    exact .inl (by decide +kernel)
  statusMin := by simp [spelled]
  statusMax := by simp [spelled]
  range := by simp [spelled]
  order := by
    rintro text ⟨⟩
    exact ⟨.descending, by decide +kernel⟩

theorem history_validates_and_lists_spelled :
    let answers := fun p =>
      World.told 0 (World.run strokes World.guarded [.ask 0 (.history p), .advance 0]).1
    (∃ l : Listing, some (.history (.ok l)) ∈ answers .spelled ∧ l.limit = 1000 ∧ l.offset = 0 ∧
      l.totalCount ≠ 0) ∧
    ∃ fault, some (.history (.error (.invalidArgument fault))) ∈ answers .crossed := by
  intro answers
  have hw : World.guarded.Reachable strokes :=
    .start _ (fun _ => 1) [.append (.bare "/") none] rfl
  constructor
  · obtain ⟨-, -, hlists⟩ := history_validates_and_lists strokes World.guarded hw 0 rfl .spelled
      (by decide) [] (by simp) (by decide +kernel)
    obtain ⟨l, hits, hanswer, hranks, hshows⟩ := hlists HistoryParams.spelled_valid
    refine ⟨l, hanswer, ?_, ?_, ?_⟩
    · exact UInt64.toNat_inj.mp (Int.ofNat_inj.mp hshows.limit)
    · exact UInt64.toNat_inj.mp (Int.ofNat_inj.mp hshows.offset)
    · have hselects : HistoryParams.spelled.Selects ((Draft.bare "/").withId 1) := by
        refine ⟨?_, ?_, by simp [HistoryParams.spelled], by simp [HistoryParams.spelled], ?_⟩
        · rintro text ⟨⟩
          exact (Method.named_iff .get _).mpr (by decide +kernel)
        · rintro part ⟨⟩
          exact List.nil_infix
        · rintro text ⟨⟩
          exact .inl (by decide +kernel)
      have hhit := (hranks.mem ((Draft.bare "/").withId 1)).mpr ⟨by decide +kernel, hselects⟩
      intro hzero
      have htotal := hshows.totalCount
      rw [hzero] at htotal
      rw [List.length_eq_zero_iff.mp htotal.symm] at hhit
      cases hhit
  · obtain ⟨-, hrefused, -⟩ := history_validates_and_lists strokes World.guarded hw 0 rfl .crossed
      (by decide) [] (by simp) (by decide +kernel)
    refine hrefused.mpr fun h => ?_
    exact absurd (h.range 500 499 rfl rfl) (by decide)

end PacketReplay
