import PacketReplay.Proofs.HeaderNames
import PacketReplay.Proofs.Listing
import PacketReplay.Proofs.TextWords

set_option autoImplicit false

namespace PacketReplay

def Method.Named (m : Method) (text : String) : Prop :=
  m.name = (trim text).toUpper

def OriginKind.Named (k : OriginKind) (text : String) : Prop :=
  sameIgnoringCase (trim text) k.name = true

def Order.spellings : Order → List (List String)
  | .ascending => [["id"], ["id", "asc"]]
  | .descending => [["id", "desc"]]

/-- A text names an order: its words do, in any case. -/
def Order.Named (o : Order) (text : String) : Prop :=
  ∃ ws, FallsInto text.toList ws ∧
    ∃ names ∈ o.spellings, ws.map (List.map Char.toLower) = names.map String.toList

namespace HistoryParams

variable (p : HistoryParams)

structure Valid : Prop where
  limit : 0 ≤ p.limit.getD 100 ∧ p.limit.getD 100 ≤ 1000
  offset : 0 ≤ p.offset.getD 0
  method : ∀ text, p.method = some text → ∃ m : Method, m.Named text
  origin : ∀ text, p.origin = some text → trim text = "" ∨ ∃ k : OriginKind, k.Named text
  statusMin : ∀ low, p.statusMin = some low → 0 ≤ low ∧ low ≤ 999
  statusMax : ∀ high, p.statusMax = some high → 0 ≤ high ∧ high ≤ 999
  range : ∀ low high, p.statusMin = some low → p.statusMax = some high → low ≤ high
  order : ∀ text, p.order = some text → ∃ o : Order, o.Named text

/-- A request selects a record. What is not given restricts nothing, and neither does a blank
origin. -/
structure Selects (r : Record) : Prop where
  method : ∀ text, p.method = some text → r.method.Named text
  url : ∀ part, p.urlContains = some part →
    part.toList.map Char.toLower <:+: r.url.toList.map Char.toLower
  statusMin : ∀ low, p.statusMin = some low → ∃ s, r.status = some s ∧ low ≤ s.toNat
  statusMax : ∀ high, p.statusMax = some high → ∃ s, r.status = some s ∧ s.toNat ≤ high
  origin : ∀ text, p.origin = some text → trim text = "" ∨ r.origin.kind.Named text

def Descends : Prop :=
  ∃ text, p.order = some text ∧ Order.Named .descending text

end HistoryParams

/-- A check refuses what is not valid, and makes of what is valid something with a meaning. -/
inductive Checked {α : Type} (valid : Prop) (means : α → Prop) : Except PacketError α → Prop where
  | ok (a : α) (h : valid) (ha : means a) : Checked valid means (.ok a)
  | error (fault : ArgumentFault) (h : ¬ valid) :
    Checked valid means (.error (.invalidArgument fault))

section

variable {α β : Type} {valid valid' : Prop} {means : α → Prop}

theorem Checked.bind {means' : β → Prop} {x : Except PacketError α} {f : α → Except PacketError β}
    (hx : Checked valid means x) (hf : ∀ a, means a → Checked valid' means' (f a)) :
    Checked (valid ∧ valid') means' (x >>= f) := by
  cases hx with
  | error fault h => exact .error fault fun hv => h hv.1
  | ok a h ha =>
    have hnext := hf a ha
    change Checked _ _ (f a)
    generalize f a = y at hnext
    cases hnext with
    | ok b h' hb => exact .ok b ⟨h, h'⟩ hb
    | error fault h' => exact .error fault fun hv => h' hv.2

theorem Checked.congr {x : Except PacketError α} (hx : Checked valid means x)
    (hv : valid ↔ valid') {means' : α → Prop} (hm : ∀ a, means a → means' a) :
    Checked valid' means' x := by
  cases hx with
  | ok a h ha => exact .ok a (hv.mp h) (hm a ha)
  | error fault h => exact .error fault fun h' => h (hv.mpr h')

end

theorem Method.ofName?_iff (name : String) (m : Method) :
    Method.ofName? name = some m ↔ m.name = name := by
  constructor
  · intro h
    unfold ofName? at h
    split at h
    all_goals first
      | cases h; rfl
      | cases h
  · rintro rfl
    cases m <;> rfl

theorem Method.named_iff (m : Method) (text : String) :
    m.Named text ↔ Method.ofName? (Method.normalName text) = some m :=
  (Method.ofName?_iff _ m).symm

theorem Method.eq_of_named (text : String) (m m' : Method) (h : m.Named text) (h' : m'.Named text) :
    m = m' :=
  (Method.name_inj m m').mp (h.trans h'.symm)

theorem OriginKind.eq_of_named (text : String) (k k' : OriginKind) (h : k.Named text)
    (h' : k'.Named text) : k = k' := by
  rw [Named, sameIgnoringCase_iff] at h h'
  rw [h] at h'
  revert h'
  cases k <;> cases k' <;> decide

theorem Order.named_iff (o : Order) (text : String) :
    o.Named text ↔ (words text).map String.toLower ∈ o.spellings := by
  have hsame : ∀ names : List String, (words text).map String.toLower = names ↔
      (wordsFrom [] text.toList).map (List.map Char.toLower) = names.map String.toList := by
    intro names
    rw [← (List.map_injective_iff.mpr fun a b => String.toList_inj.mp).eq_iff, words]
    simp only [List.map_map, Function.comp_def, toList_toLower, String.toList_ofList]
  simp only [Named, fallsInto_iff, exists_eq_left', ← hsame, exists_eq_right']

instance (o : Order) (text : String) : Decidable (o.Named text) :=
  decidable_of_iff _ (o.named_iff text).symm

theorem Order.eq_of_named (text : String) (o o' : Order) (h : o.Named text) (h' : o'.Named text) :
    o = o' := by
  rw [named_iff] at h h'
  generalize (words text).map String.toLower = names at h h'
  revert names
  cases o <;> cases o' <;> simp [spellings]

theorem Order.parse_checked (text : String) :
    Checked (∃ o : Order, o.Named text) (fun o => o.Named text) (Order.parse text) := by
  simp only [named_iff, parse]
  split
  · rename_i h
    exact .ok _ ⟨.ascending, by rw [h]; decide⟩ (by rw [h]; decide)
  · rename_i h
    exact .ok _ ⟨.ascending, by rw [h]; decide⟩ (by rw [h]; decide)
  · rename_i h
    exact .ok _ ⟨.descending, by rw [h]; decide⟩ (by rw [h]; decide)
  · rename_i hid hasc hdesc
    refine .error _ ?_
    rintro ⟨o, ho⟩
    cases o with
    | ascending =>
      rcases List.mem_cons.mp ho with h | h
      · exact hid h
      · exact hasc (List.mem_singleton.mp h)
    | descending => exact hdesc (List.mem_singleton.mp ho)

namespace HistoryParams

variable (p : HistoryParams)

theorem page_checked :
    Checked ((0 ≤ p.limit.getD 100 ∧ p.limit.getD 100 ≤ 1000) ∧ 0 ≤ p.offset.getD 0)
      (fun page => (page.limit : Int) = p.limit.getD 100 ∧ (page.offset : Int) = p.offset.getD 0)
      p.page := by
  change Checked _ _ (Page.ofInts (p.limit.getD 100) (p.offset.getD 0))
  generalize p.limit.getD 100 = limit
  generalize p.offset.getD 0 = offset
  unfold Page.ofInts
  split
  · exact .error _ (by omega)
  · split
    · rename_i hpos hle
      change limit.toNat ≤ 1000 at hle
      split
      · exact .error _ (by omega)
      · exact .ok _ (by omega) ⟨by simp only; omega, by simp only; omega⟩
    · rename_i hpos hgt
      change ¬ limit.toNat ≤ 1000 at hgt
      exact .error _ (by omega)

theorem methodFilter_checked :
    Checked (∀ text, p.method = some text → ∃ m : Method, m.Named text)
      (fun method => ∀ r : Record, (∀ m, method = some m → r.method = m) ↔
        ∀ text, p.method = some text → r.method.Named text)
      p.methodFilter := by
  unfold methodFilter
  split
  · rename_i h
    simp only [h]
    exact .ok none (by simp) (by simp)
  · rename_i text h
    simp only [h, Option.some.injEq, forall_eq']
    cases hm : Method.ofName? (Method.normalName text) with
    | some m =>
      have hnamed := (m.named_iff text).mpr hm
      have hparse : Method.parse text = .ok m := by rw [Method.parse, hm]
      simp only [hparse]
      refine .ok (some m) ⟨m, hnamed⟩ fun r => ⟨fun heq => ?_, ?_⟩
      · rwa [heq m rfl]
      · rintro hr m' ⟨⟩
        exact Method.eq_of_named text _ _ hr hnamed
    | none =>
      have hparse : Method.parse text = .error (Method.normalName text) := by rw [Method.parse, hm]
      simp only [hparse]
      refine .error _ ?_
      rintro ⟨m, hnamed⟩
      rw [(m.named_iff text).mp hnamed] at hm
      cases hm

theorem originFilter_checked :
    Checked (∀ text, p.origin = some text → trim text = "" ∨ ∃ k : OriginKind, k.Named text)
      (fun origin => ∀ r : Record, (∀ k, origin = some k → r.origin.kind = k) ↔
        ∀ text, p.origin = some text → trim text = "" ∨ r.origin.kind.Named text)
      p.originFilter := by
  unfold originFilter
  cases h : p.origin with
  | none => exact .ok none (by simp) (by simp)
  | some text =>
    simp only [Option.map_some, Option.some.injEq, forall_eq']
    by_cases hblank : trim text = ""
    · rw [if_pos hblank]
      exact .ok none (.inl hblank) (by simp [hblank])
    · rw [if_neg hblank]
      have hnamed : ∀ k : OriginKind, k.Named text → ∀ r : Record,
          (∀ k', some k = some k' → r.origin.kind = k') ↔
            trim text = "" ∨ r.origin.kind.Named text := by
        intro k hk r
        rw [or_iff_right hblank]
        constructor
        · intro heq
          rwa [heq k rfl]
        · rintro hr k' ⟨⟩
          exact OriginKind.eq_of_named text _ _ hr hk
      split
      · rename_i hk
        exact .ok (some OriginKind.captured) (.inr ⟨.captured, hk⟩) (hnamed .captured hk)
      · split
        · rename_i hk
          exact .ok (some OriginKind.resend) (.inr ⟨.resend, hk⟩) (hnamed .resend hk)
        · rename_i hcaptured hresend
          refine .error _ ?_
          rintro (h | ⟨k, hk⟩)
          · exact hblank h
          · cases k with
            | captured => exact hcaptured hk
            | resend => exact hresend hk

theorem statusBound_checked (bound : String) (given : Option Int) :
    Checked (∀ n, given = some n → 0 ≤ n ∧ n ≤ 999)
      (fun status : Option UInt16 => status.map (fun s => (s.toNat : Int)) = given)
      (statusBound bound given) := by
  cases given with
  | none => exact .ok none (by simp) rfl
  | some n =>
    simp only [statusBound, Option.some.injEq, forall_eq']
    split
    · rename_i h
      refine .ok _ h ?_
      change some ((n.toNat % 2 ^ 16 : Nat) : Int) = some n
      congr 1
      omega
    · rename_i h
      exact .error _ h

theorem selects_iff (f : Filter) (r : Record)
    (hmethod : (∀ m, f.method = some m → r.method = m) ↔
      ∀ text, p.method = some text → r.method.Named text)
    (hurl : f.urlContains = p.urlContains.filter (· ≠ ""))
    (hlow : f.statusMin.map (fun s => (s.toNat : Int)) = p.statusMin)
    (hhigh : f.statusMax.map (fun s => (s.toNat : Int)) = p.statusMax)
    (horigin : (∀ k, f.origin = some k → r.origin.kind = k) ↔
      ∀ text, p.origin = some text → trim text = "" ∨ r.origin.kind.Named text) :
    f.Selects r ↔ p.Selects r := by
  have hpart : (∀ part, f.urlContains = some part →
      part.toList.map Char.toLower <:+: r.url.toList.map Char.toLower) ↔
      ∀ part, p.urlContains = some part →
        part.toList.map Char.toLower <:+: r.url.toList.map Char.toLower := by
    simp only [hurl, Option.filter_eq_some_iff, decide_eq_true_iff]
    refine ⟨fun h part hp => ?_, fun h part hp => h part hp.1⟩
    by_cases hempty : part = ""
    · rw [hempty]
      exact List.nil_infix
    · exact h part ⟨hp, hempty⟩
  have hmin : (∀ low, f.statusMin = some low → ∃ s, r.status = some s ∧ low ≤ s) ↔
      ∀ low, p.statusMin = some low → ∃ s, r.status = some s ∧ low ≤ s.toNat := by
    simp [← hlow, Option.map_eq_some_iff, UInt16.le_iff_toNat_le]
  have hmax : (∀ high, f.statusMax = some high → ∃ s, r.status = some s ∧ s ≤ high) ↔
      ∀ high, p.statusMax = some high → ∃ s, r.status = some s ∧ s.toNat ≤ high := by
    simp [← hhigh, Option.map_eq_some_iff, UInt16.le_iff_toNat_le]
  constructor
  · rintro ⟨hm, hu, hl, hh, ho⟩
    exact ⟨hmethod.mp hm, hpart.mp hu, hmin.mp hl, hmax.mp hh, horigin.mp ho⟩
  · rintro ⟨hm, hu, hl, hh, ho⟩
    exact ⟨hmethod.mpr hm, hpart.mpr hu, hmin.mpr hl, hmax.mpr hh, horigin.mpr ho⟩

theorem filter_checked :
    Checked ((∀ text, p.method = some text → ∃ m : Method, m.Named text) ∧
        (∀ text, p.origin = some text → trim text = "" ∨
          ∃ k : OriginKind, k.Named text) ∧
        (∀ low, p.statusMin = some low → 0 ≤ low ∧ low ≤ 999) ∧
        (∀ high, p.statusMax = some high → 0 ≤ high ∧ high ≤ 999) ∧
        ∀ low high, p.statusMin = some low → p.statusMax = some high → low ≤ high)
      (fun f => ∀ r, f.Selects r ↔ p.Selects r) p.filter := by
  unfold filter
  refine p.methodFilter_checked.bind fun method hmethod => ?_
  refine p.originFilter_checked.bind fun origin horigin => ?_
  refine (statusBound_checked _ p.statusMin).bind fun low hlow => ?_
  refine (statusBound_checked _ p.statusMax).bind fun high hhigh => ?_
  have hselects : ∀ r, Filter.Selects ⟨method, p.urlContains.filter (· ≠ ""), low, high, origin⟩ r ↔
      p.Selects r :=
    fun r => p.selects_iff _ r (hmethod r) rfl hlow hhigh (horigin r)
  cases low with
  | none => exact .ok _ (by simp [← hlow]) hselects
  | some low =>
    cases high with
    | none => exact .ok _ (by simp [← hhigh]) hselects
    | some high =>
      have hrange : (∀ l h, p.statusMin = some l → p.statusMax = some h → l ≤ h) ↔
          ¬ high < low := by
        rw [← hlow, ← hhigh, UInt16.lt_iff_toNat_lt, Nat.not_lt]
        constructor
        · intro h
          exact Int.ofNat_le.mp (h _ _ rfl rfl)
        · rintro h _ _ ⟨⟩ ⟨⟩
          exact Int.ofNat_le.mpr h
      rw [hrange]
      by_cases hlt : high < low
      · simp only [if_pos hlt]
        exact .error (.emptyStatusRange low.toNat high.toNat) (not_not.mpr hlt)
      · simp only [if_neg hlt]
        exact .ok _ hlt hselects

theorem sortOrder_checked :
    Checked (∀ text, p.order = some text → ∃ o : Order, o.Named text)
      (fun o => o = .descending ↔ p.Descends) p.sortOrder := by
  unfold sortOrder Descends
  cases p.order with
  | none => exact .ok Order.ascending (by simp) (by simp)
  | some text =>
    refine (Order.parse_checked text).congr (by simp) fun o ho => ?_
    simp only [Option.some.injEq, exists_eq_left']
    constructor
    · rintro rfl
      exact ho
    · exact fun hd => Order.eq_of_named text o .descending ho hd

/-- What a page, a filter and an order say of a request. -/
structure Means (page : Page) (f : Filter) (o : Order) : Prop where
  limit : (page.limit : Int) = p.limit.getD 100
  offset : (page.offset : Int) = p.offset.getD 0
  selects : ∀ r, f.Selects r ↔ p.Selects r
  order : o = .descending ↔ p.Descends

/-- **A request is refused if and only if it is not valid**, and what is made of it means what it
says. -/
theorem query_checked : Checked p.Valid (fun q => p.Means q.1 q.2.1 q.2.2) p.query := by
  unfold query
  have hpair : ∀ page f o, p.Means page f o → Checked True (fun q => p.Means q.1 q.2.1 q.2.2)
      (pure (page, f, o)) :=
    fun page f o h => .ok (page, f, o) trivial h
  have hchecked := p.page_checked.bind fun page hpage => p.filter_checked.bind fun f hf =>
    p.sortOrder_checked.bind fun o ho => hpair page f o ⟨hpage.1, hpage.2, hf, ho⟩
  refine hchecked.congr ⟨?_, ?_⟩ fun q hq => hq
  · rintro ⟨⟨hlimit, hoffset⟩, ⟨hmethod, horigin, hlow, hhigh, hrange⟩, horder, -⟩
    exact ⟨hlimit, hoffset, hmethod, horigin, hlow, hhigh, hrange, horder⟩
  · rintro ⟨hlimit, hoffset, hmethod, horigin, hlow, hhigh, hrange, horder⟩
    exact ⟨⟨hlimit, hoffset⟩, ⟨hmethod, horigin, hlow, hhigh, hrange⟩, horder, trivial⟩

end HistoryParams

end PacketReplay
