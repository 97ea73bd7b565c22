import PacketReplay.Proofs.Paging

set_option autoImplicit false

namespace PacketReplay

/-- Whether a time is in the leap second after the last second of the range. -/
def Instant.PastEnd (t : Instant) : Prop :=
  t.seconds = lastSecond ∧ 1000000000 ≤ t.nanos

instance (t : Instant) : Decidable t.PastEnd := by
  unfold Instant.PastEnd; infer_instance

theorem Instant.ofMillis?_isSome_iff (ms : Int) :
    (Instant.ofMillis? ms).isSome ↔ firstSecond ≤ ms / 1000 ∧ ms / 1000 ≤ lastSecond := by
  have hnanos : (ms % 1000).toNat * 1000000 < 1000000000 := by omega
  rw [ofMillis?, ofParts?]
  split
  · rename_i h
    simp [h.1, h.2.1]
  · rename_i h
    simp only [Option.isSome_none, Bool.false_eq_true, false_iff, not_and]
    intro hfirst hlast
    exact h ⟨hfirst, hlast, .inl hnanos⟩

/-- The milliseconds of a time are those of a time unless the next second does not exist. -/
theorem Draft.timely_iff (d : Draft) : d.Timely ↔ ¬ d.timestamp.PastEnd := by
  obtain ⟨hfirst, hlast, hnanos⟩ := d.timestamp.moment
  have hend : lastSecond = 8210266876799 := rfl
  rw [Timely, Instant.ofMillis?_isSome_iff, Instant.toMillis, Instant.PastEnd]
  omega

theorem Draft.cut_of_not_timely (d : Draft) (h : ¬ d.Timely) : d.cut = d := by
  rw [Timely, Option.not_isSome_iff_eq_none] at h
  rw [cut, Instant.truncateToMillis, h, Option.getD_none]

theorem Draft.cut_whole_iff (d : Draft) : d.cut.Whole ↔ d.Timely := by
  refine ⟨fun h => ?_, Timely.cut_whole⟩
  by_contra hlate
  rw [d.cut_of_not_timely hlate, Whole] at h
  exact hlate (Option.isSome_of_eq_some h)

theorem Draft.whole_iff (d : Draft) (hcut : d.cut = d) : d.Whole ↔ ¬ d.timestamp.PastEnd := by
  rw [← d.timely_iff, ← d.cut_whole_iff, hcut]

theorem mapM_summary_ok_iff (rs : List Record) (hcut : ∀ r ∈ rs, r.toDraft.cut = r.toDraft) :
    (∃ ss, (rs.map Record.row).mapM Row.summary = .ok ss) ↔ ∀ r ∈ rs, r.toDraft.Whole := by
  refine ⟨fun hread => ?_, fun h => ⟨_, mapM_summary rs h⟩⟩
  induction rs with
  | nil => simp
  | cons r rs ih =>
    obtain ⟨ss, h⟩ := hread
    rw [List.map_cons, List.mapM_cons] at h
    rw [List.forall_mem_cons] at hcut ⊢
    cases hs : r.row.summary with
    | error e =>
      rw [hs] at h
      cases h
    | ok s =>
      cases hrest : (rs.map Record.row).mapM Row.summary with
      | error e =>
        rw [hs, hrest] at h
        cases h
      | ok rest => exact ⟨(r.of_summary_row hcut.1 s hs).1, ih hcut.2 ⟨rest, hrest⟩⟩

theorem mem_logged_iff (trace : List (StoreOp × StoreAnswer)) (r : Record) :
    r ∈ logged trace ↔ ∃ d refusal id,
      (.append d refusal, .appended (.ok id)) ∈ trace ∧ d.cut.withId id = r := by
  rw [logged, List.mem_filterMap]
  constructor
  · rintro ⟨⟨op, a⟩, hp, hm⟩
    split at hm
    · rename_i d refusal id he
      cases he
      exact ⟨d, refusal, id, hp, Option.some.inj hm⟩
    · cases hm
  · rintro ⟨d, refusal, id, hp, rfl⟩
    exact ⟨_, hp, rfl⟩

namespace Store.Holds

variable {s : Store} {log : List Record}

theorem get_mem_eq (h : s.Holds log) (r : Record) (hr : r ∈ log)
    (hcut : r.toDraft.cut = r.toDraft) (includeBody : Bool) :
    s.get r.id includeBody =
      if r.timestamp.PastEnd ∧ s.inMemory? r.id = none then .error (.storage
        ["invalid stored timestamp " ++ toString r.timestamp.toMillis])
      else .ok (r.seen includeBody) := by
  by_cases hend : r.timestamp.PastEnd
  · have hnone : Instant.ofMillis? r.timestamp.toMillis = none := by
      rw [← Option.not_isSome_iff_eq_none]
      intro hsome
      exact r.toDraft.timely_iff.mp hsome hend
    rw [Store.get, Store.look, if_pos rfl]
    cases hm : s.inMemory? r.id with
    | some q =>
      obtain rfl := h.inMemory?_mem r q hr hm
      simp
    | none =>
      rw [if_pos ⟨hend, rfl⟩, h.getStored_mem r hr, r.record_row_eq, Row.readTime, hnone]
      rfl
  · rw [if_neg fun h => hend h.1]
    exact h.get_whole r hr ((r.toDraft.whole_iff hcut).mpr hend) includeBody

theorem list_ok_iff (h : s.Holds log) (hcut : ∀ r ∈ log, r.toDraft.cut = r.toDraft) (page : Page)
    (f : Filter) (o : Order) :
    (∃ l, s.list page f o = .ok l) ↔ ∀ r ∈ page.of (f.hits o log), ¬ r.timestamp.PastEnd := by
  obtain ⟨t, ht, hl⟩ := h.table
  have hmem : ∀ r ∈ page.of (f.hits o log), r.toDraft.cut = r.toDraft := by
    intro r hr
    have hr := page.mem_of_mem_of _ r hr
    exact hcut r (List.mem_filter.mp ((f.hits_perm o log).mem_iff.mp hr)).1
  have hread : (∃ l, s.list page f o = .ok l) ↔
      ∃ ss, ((page.of (f.hits o log)).map Record.row).mapM Row.summary = .ok ss := by
    rw [hl.keeps.list_eq ht, Page.read]
    cases ((page.of (f.hits o log)).map Record.row).mapM Row.summary <;> simp
  rw [hread, mapM_summary_ok_iff _ hmem]
  exact forall₂_congr fun r hr => r.toDraft.whole_iff (hmem r hr)

end Store.Holds

/-- **What was added reads back, but for the very last leap second.** After any run, with any sizes
of the memory, every packet that was added reads back as it was given, with and without its bodies,
unless its time is in the leap second after the range and the packet has left the memory: it is then
refused. A page is shown exactly when no packet on it has such a time. -/
theorem Store.run_reads_back (size : Nat → Nat) (ops : List StoreOp) :
    let trace := (Store.run size ops).1
    let s := (Store.run size ops).2
    (∀ d refusal id, (.append d refusal, .appended (.ok id)) ∈ trace → ∀ includeBody,
      s.get id includeBody =
        if d.timestamp.PastEnd ∧ s.inMemory? id = none then .error (.storage
          ["invalid stored timestamp " ++ toString d.timestamp.toMillis])
        else .ok ((d.cut.withId id).seen includeBody)) ∧
    ∀ page f o, (∃ l, s.list page f o = .ok l) ↔
      ∀ r ∈ page.of (f.hits o (logged trace)), ¬ r.timestamp.PastEnd := by
  intro trace s
  have hs : s.Holds (logged trace) := Store.run_holds size ops
  have hcut : ∀ r ∈ logged trace, r.toDraft.cut = r.toDraft := logged_cut trace
  refine ⟨?_, hs.list_ok_iff hcut⟩
  intro d refusal id hadded includeBody
  have hmem : d.cut.withId id ∈ logged trace :=
    (mem_logged_iff _ _).mpr ⟨d, refusal, id, hadded, rfl⟩
  have hget := hs.get_mem_eq _ hmem (hcut _ hmem) includeBody
  have hend : d.cut.timestamp.PastEnd ↔ d.timestamp.PastEnd := by
    rw [← not_iff_not, ← d.cut.whole_iff d.cut_cut, d.cut_whole_iff, d.timely_iff]
  by_cases hlate : d.timestamp.PastEnd
  · rwa [d.cut_of_not_timely fun h => d.timely_iff.mp h hlate] at hget ⊢
  · rw [if_neg fun h => hlate h.1]
    rwa [if_neg fun h => hlate (hend.mp h.1)] at hget

/-- The leap second at the end of June 1972 reads back as the start of July, from the table too. -/
theorem Store.run_reads_back_leap :
    let d : Draft := { Draft.bare "/a" with timestamp := ⟨78796799, 1000000000, by decide⟩ }
    let s := (Store.run (fun _ => 0) [.append d none]).2
    s.recent = [] ∧ ¬ d.timestamp.PastEnd ∧
      s.get 1 true = .ok { d.withId 1 with timestamp := ⟨78796800, 0, by decide⟩ } ∧
      ∃ l, s.list .first .all .ascending = .ok l := by
  intro d s
  have hend : ¬ d.timestamp.PastEnd := by decide +revert
  have hnext : ¬ Instant.PastEnd ⟨78796800, 0, by decide⟩ := by decide
  have hcut : d.cut.withId 1 = { d.withId 1 with timestamp := ⟨78796800, 0, by decide⟩ } := by
    decide +kernel +revert
  have hlog : logged (Store.run (fun _ => 0) [.append d none]).1 = [d.cut.withId 1] := rfl
  obtain ⟨hget, hlist⟩ := Store.run_reads_back (fun _ => 0) [.append d none]
  have hread := hget d none 1 (List.mem_singleton.mpr rfl) true
  rw [if_neg fun h => hend h.1, hcut] at hread
  refine ⟨rfl, hend, hread, (hlist .first .all .ascending).mpr ?_⟩
  intro r hr
  have hr := (Filter.hits_perm _ _ _).mem_iff.mp (Page.mem_of_mem_of _ _ r hr)
  rw [hlog, hcut] at hr
  obtain rfl := List.mem_singleton.mp (List.mem_filter.mp hr).1
  exact hnext

/-- A packet from the last leap second is added, and then neither found nor listed. -/
theorem Store.not_reads_back_last :
    let run := Store.run (fun _ => 0) [.append { Draft.bare "/b" with timestamp := .last } none]
    run.1.map Prod.snd = [.appended (.ok 1)] ∧
      (∀ includeBody, run.2.get 1 includeBody =
        .error (.storage ["invalid stored timestamp 8210266876800000"])) ∧
      run.2.list .first .all .ascending =
        .error (.storage ["invalid stored timestamp 8210266876800000"]) := by
  refine ⟨rfl, ?_, by decide +kernel⟩
  intro includeBody
  cases includeBody <;> decide +kernel

end PacketReplay
