import PacketReplay.Proofs.EditTarget

set_option autoImplicit false

namespace PacketReplay

/-- The edits of a header that a rule can be. -/
inductive Rule.OnHeader (r : Rule) (name : String) : Edit → Prop where
  | set (value : String) (hop : Operation.parse r.operation = some .set)
    (hvalue : r.value = some value) (hfit : isHeaderValue value = true) :
    OnHeader r name (.setHeader name value)
  | add (value : String) (hop : Operation.parse r.operation = some .add)
    (hvalue : r.value = some value) (hfit : isHeaderValue value = true) :
    OnHeader r name (.addHeader name value)
  | remove (hop : Operation.parse r.operation = some .remove) :
    OnHeader r name (.removeHeader name)

section

variable (r : Rule) (e : Edit)

theorem Rule.needHeaderValue_eq_ok (value : String) (h : r.needHeaderValue = .ok value) :
    r.value = some value ∧ isHeaderValue value = true := by
  obtain ⟨v, hv, h⟩ := bind_eq_ok h
  split at h
  · rename_i hfit
    cases h
    refine ⟨?_, hfit⟩
    rw [needValue] at hv
    split at hv
    · cases hv
      assumption
    · cases hv
  · cases h

theorem Rule.onHeader_of_compile (name : String) (h : r.compile = .ok e)
    (ht : Target.parse r.target = some (.header name)) :
    isHeaderName name = true ∧ r.OnHeader name e := by
  rw [compile, ht] at h
  split at h
  · cases h
  · rename_i op hop
    change r.headerEdit op name = .ok e at h
    unfold headerEdit at h
    split at h
    · cases h
    · rename_i hname
      refine ⟨by simpa using hname, ?_⟩
      cases op with
      | set =>
        obtain ⟨value, hv, h⟩ := bind_eq_ok h
        cases h
        obtain ⟨hvalue, hfit⟩ := r.needHeaderValue_eq_ok value hv
        exact .set value hop hvalue hfit
      | add =>
        obtain ⟨value, hv, h⟩ := bind_eq_ok h
        cases h
        obtain ⟨hvalue, hfit⟩ := r.needHeaderValue_eq_ok value hv
        exact .add value hop hvalue hfit
      | remove =>
        cases h
        exact .remove hop
      | replace | regexReplace => cases h

theorem Rule.exists_onHeader (name : String) (h : r.compile = .ok e)
    (hn : r.editsHeader name = true) : ∃ spelling, sameIgnoringCase name spelling = true ∧
      Target.parse r.target = some (.header spelling) ∧ r.OnHeader spelling e := by
  rw [editsHeader] at hn
  cases ht : Target.parse r.target with
  | none =>
    rw [ht] at hn
    cases hn
  | some target =>
    rw [ht, Option.any_some] at hn
    cases target with
    | header spelling =>
      exact ⟨spelling, hn, rfl, (r.onHeader_of_compile e spelling h ht).2⟩
    | url | body | method => cases hn

end

def Edit.onHeaders (policy : Policy) (hs : Headers) : Edit → Headers
  | .setHeader name value => hs.set name value
  | .addHeader name value =>
    match policy with
    | .allowDuplicates => hs.add name value
    | .replaceExisting => hs.set name value
  | .removeHeader name => hs.without name
  | _ => hs

section

variable (policy : Policy)

theorem Edit.headers_apply (e : Edit) (p : Record) :
    (e.apply policy p).headers = e.onHeaders policy p.headers := by
  cases e with
  | addHeader name value => cases policy <;> rfl
  | _ => rfl

theorem Edit.filter_onHeaders_kept (e : Edit) (hs : Headers) (name : String) (keep : Header → Bool)
    (hkeep : ∀ h : Header, h.named name = true → keep h = true)
    (he : e.target.isHeader name = true) :
    (e.onHeaders policy hs).filter keep = e.onHeaders policy (hs.filter keep) := by
  cases e with
  | setHeader other value =>
    rw [Header.named_congr name other he] at hkeep
    exact hs.filter_set_kept other value keep hkeep
  | addHeader other value =>
    rw [Header.named_congr name other he] at hkeep
    cases policy with
    | allowDuplicates => exact hs.filter_add_kept other value keep hkeep
    | replaceExisting => exact hs.filter_set_kept other value keep hkeep
  | removeHeader other => exact hs.filter_without_kept other keep
  | _ => cases he

/-- The lines of a name, and lines that no other edit can touch, become what the edits of that name
alone make of them. -/
theorem Edit.filter_foldl_kept (es : List Edit) (p : Record) (name : String)
    (keep : Header → Bool) (hkeep : ∀ h : Header, h.named name = true → keep h = true)
    (hother : ∀ e ∈ es, e.target.isHeader name = false →
      ∀ h : Header, e.target.isHeader h.name = true → keep h = false) :
    (es.foldl (Edit.apply policy) p).headers.filter keep =
      (es.filter fun e => e.target.isHeader name).foldl (Edit.onHeaders policy)
        (p.headers.filter keep) := by
  induction es generalizing p with
  | nil => rfl
  | cons e es ih =>
    obtain ⟨he, hes⟩ := List.forall_mem_cons.mp hother
    rw [List.foldl_cons, ih _ hes, List.filter_cons]
    by_cases hn : e.target.isHeader name = true
    · rw [if_pos hn, List.foldl_cons, e.headers_apply,
        e.filter_onHeaders_kept policy p.headers name keep hkeep hn]
    · rw [if_neg hn, e.filter_headers_apply policy p keep (he (by simpa using hn))]

/-- When names are not to repeat, a rule of a header removes it or sets it. -/
theorem Rule.OnHeader.cases_replacing (r : Rule) (e : Edit) (name : String)
    (h : r.OnHeader name e) :
    (Operation.parse r.operation = some .remove ∧ e = .removeHeader name) ∨
    ((Operation.parse r.operation = some .set ∨ Operation.parse r.operation = some .add) ∧
      ∃ value, r.value = some value ∧
        ∀ hs, e.onHeaders .replaceExisting hs = hs.set name value) := by
  cases h with
  | set value hop hvalue => exact .inr ⟨.inl hop, value, hvalue, fun _ => rfl⟩
  | add value hop hvalue => exact .inr ⟨.inr hop, value, hvalue, fun _ => rfl⟩
  | remove hop => exact .inl ⟨hop, rfl⟩

end

/-- Lines of other names, then a part that starts with the name, if it is not empty; without the
name that part is `back`. -/
def Headers.Slot (name : String) (front back hs : Headers) : Prop :=
  ∃ tail, hs = front ++ tail ∧ tail.without name = back ∧
    ∀ line ∈ tail.head?, line.named name = true

section

variable (name : String) (front back hs : Headers)

theorem Headers.set_eq_of_head (value : String) (h : ∀ line ∈ hs.head?, line.named name = true) :
    hs.set name value = ⟨name, value⟩ :: hs.without name := by
  cases hs with
  | nil => rfl
  | cons line hs =>
    have hline : line.named name = true := h line rfl
    rw [set_cons_named hs name value line hline, without, without, List.filter_cons_of_neg]
    simp [hline]

variable (hfront : ∀ line ∈ front, line.named name = false)

include hfront

theorem Headers.Slot.set_eq (spelling value : String) (h : Headers.Slot name front back hs)
    (hsame : sameIgnoringCase name spelling = true) :
    hs.set spelling value = front ++ ⟨spelling, value⟩ :: back := by
  obtain ⟨tail, rfl, htail, hhead⟩ := h
  have hnamed := Header.named_congr name spelling hsame
  have hback : Headers.without tail spelling = back := by
    rw [← htail, Headers.without, Headers.without, hnamed]
  rw [Headers.set_append_other tail spelling value front (by rw [← hnamed]; exact hfront),
    Headers.set_eq_of_head spelling tail value (by rw [← hnamed]; exact hhead), hback]

theorem Headers.Slot.set (spelling value : String) (h : Headers.Slot name front back hs)
    (hsame : sameIgnoringCase name spelling = true) :
    Headers.Slot name front back (hs.set spelling value) := by
  have hline : Header.named name ⟨spelling, value⟩ = true := by
    rw [Header.named_congr name spelling hsame]
    exact sameIgnoringCase_self spelling
  refine ⟨⟨spelling, value⟩ :: back, h.set_eq name front back hs hfront spelling value hsame,
    ?_, ?_⟩
  · obtain ⟨tail, -, rfl, -⟩ := h
    rw [Headers.without, List.filter_cons_of_neg (by simp [hline])]
    exact tail.without_without name
  · rintro line ⟨⟩
    exact hline

theorem Headers.Slot.without (spelling : String) (h : Headers.Slot name front [] hs)
    (hsame : sameIgnoringCase name spelling = true) :
    Headers.Slot name front [] (hs.without spelling) := by
  obtain ⟨tail, rfl, htail, -⟩ := h
  refine ⟨[], ?_, rfl, by simp⟩
  rw [Headers.without, ← Header.named_congr name spelling hsame, List.filter_append]
  exact congrArg₂ (· ++ ·) (Headers.without_eq_self front name hfront) htail

theorem Headers.Slot.foldl (es : List Edit) (h : Headers.Slot name front back hs)
    (hes : ∀ e ∈ es, e.target.isHeader name = true)
    (hremove : back = [] ∨ ∀ e ∈ es, ∀ spelling, e ≠ .removeHeader spelling) :
    Headers.Slot name front back (es.foldl (Edit.onHeaders .replaceExisting) hs) := by
  induction es generalizing hs with
  | nil => exact h
  | cons e es ih =>
    obtain ⟨he, hes⟩ := List.forall_mem_cons.mp hes
    refine ih _ ?_ hes (hremove.imp_right fun hall e' he' => hall e' (List.mem_cons_of_mem _ he'))
    cases e with
    | setHeader spelling value => exact h.set name front back hs hfront spelling value he
    | addHeader spelling value => exact h.set name front back hs hfront spelling value he
    | removeHeader spelling =>
      rcases hremove with rfl | hall
      · exact h.without name front hs hfront spelling he
      · exact absurd rfl (hall _ List.mem_cons_self spelling)
    | _ => cases he

end

/-- Whether a line has a name, or one that no rule edits. -/
def Header.countsFor (name : String) (rs : List Rule) (h : Header) : Bool :=
  h.named name || h.untouchedBy rs

theorem Headers.filter_place_other (rs : List Rule) (name : String) (hs : Headers)
    (hother : ∀ line ∈ hs, line.named name = false) :
    hs.filter (Header.countsFor name rs) = hs.filter (Header.untouchedBy rs) := by
  apply List.filter_congr
  intro line hline
  rw [Header.countsFor, hother line hline, Bool.false_or]

section

variable (p : Record) (rs : List Rule) (es : List Edit) (hes : compileFrom 0 rs = .ok es)
  (name : String)

include hes

theorem Rule.compileFrom_editsHeader :
    compileFrom 0 (rs.filter (Rule.editsHeader name)) =
      .ok (es.filter fun e => e.target.isHeader name) :=
  compileFrom_filter rs es hes (Rule.editsHeader name) (fun e => e.target.isHeader name)
    fun r e hr => r.editsHeader_of_compile e hr name

theorem Edit.isHeader_of_untouched (h : Header) (hrs : h.untouchedBy rs = true) :
    ∀ e ∈ es, e.target.isHeader h.name = false := by
  intro e he
  obtain ⟨r, hr, hc⟩ := compileFrom_mem 0 rs es hes e he
  have hnot := List.all_eq_true.mp hrs r hr
  rwa [r.editsHeader_of_compile e hc, Bool.not_eq_true'] at hnot

theorem Edit.filter_foldl_rules (policy : Policy) (keep : Header → Bool)
    (hkeep : ∀ h : Header, h.named name = true → keep h = true)
    (hrest : ∀ h, keep h = true → h.named name = true ∨ h.untouchedBy rs = true) :
    (es.foldl (Edit.apply policy) p).headers.filter keep =
      (es.filter fun e => e.target.isHeader name).foldl (Edit.onHeaders policy)
        (p.headers.filter keep) := by
  refine Edit.filter_foldl_kept policy es p name keep hkeep fun e he hother h hh => ?_
  rw [← Bool.not_eq_true]
  intro hk
  rcases hrest h hk with hn | hu
  · rw [e.target.named_other name hother h hh] at hn
    cases hn
  · rw [Edit.isHeader_of_untouched rs es hes h hu e he] at hh
    cases hh

section

variable (edited : ∃ e ∈ es, e.target.isHeader name = true)

include edited

theorem Header.named_of_untouched (h : Header) (hrs : h.untouchedBy rs = true) :
    h.named name = false := by
  obtain ⟨e, he, hname⟩ := edited
  have hother := Edit.isHeader_of_untouched rs es hes h hrs e he
  have hn := e.target.named_other h.name hother ⟨name, ""⟩ hname
  rwa [Header.named, sameIgnoringCase_comm] at hn

theorem Headers.filter_place_without (hs : Headers) :
    Headers.without (hs.filter (Header.countsFor name rs)) name =
      hs.filter (Header.untouchedBy rs) := by
  rw [Headers.without, List.filter_filter]
  apply List.filter_congr
  intro line _
  rw [Header.countsFor]
  by_cases hu : line.untouchedBy rs = true
  · simp [hu, Header.named_of_untouched rs es hes name edited line hu]
  · simp [hu]

end

end

section

variable (p : Record) (rs : List Rule) (es : List Edit) (hes : compileFrom 0 rs = .ok es)
  (name : String)

include hes

theorem Rule.exists_last_edit (before : List Rule) (r : Rule)
    (hlast : rs.filter (Rule.editsHeader name) = before ++ [r]) : ∃ init e spelling,
      compileFrom 0 before = .ok init ∧ (es.filter fun e => e.target.isHeader name) = init ++ [e] ∧
      sameIgnoringCase name spelling = true ∧ Target.parse r.target = some (.header spelling) ∧
      r.OnHeader spelling e := by
  have hedits := Rule.compileFrom_editsHeader rs es hes name
  rw [hlast] at hedits
  obtain ⟨init, e, hinit, hc, hsplit⟩ := compileFrom_concat 0 before r _ hedits
  have hr : r ∈ rs.filter (Rule.editsHeader name) := by
    rw [hlast]
    exact List.mem_append_right _ List.mem_cons_self
  obtain ⟨spelling, hsame, ht, hon⟩ := r.exists_onHeader e name hc (List.mem_filter.mp hr).2
  exact ⟨init, e, spelling, hinit, hsplit, hsame, ht, hon⟩

section

variable (init : List Edit) (e : Edit) (spelling value : String)
  (hlast : (es.filter fun e => e.target.isHeader name) = init ++ [e])
  (hsame : sameIgnoringCase name spelling = true)

include hlast hsame

/-- The last edit of a name is all that its lines depend on, whatever headers it meets. -/
theorem Edit.filter_foldl_last : ∃ hs : Headers,
    (es.foldl (Edit.apply .replaceExisting) p).headers.filter (Header.named name) =
      (e.onHeaders .replaceExisting hs).filter (Header.named spelling) := by
  have hlines := Edit.filter_foldl_rules p rs es hes name .replaceExisting (Header.named name)
    (fun _ hn => hn) fun _ hn => .inl hn
  have hagain := congrArg (List.filter (Header.named name)) hlines
  rw [hlast, List.foldl_append, List.foldl_cons, List.foldl_nil, List.filter_filter] at hagain
  simp only [Bool.and_self] at hagain
  exact ⟨_, by rw [hagain, Header.named_congr name spelling hsame]⟩

theorem Edit.filter_foldl_last_remove (hremove : e = .removeHeader spelling) :
    (es.foldl (Edit.apply .replaceExisting) p).headers.filter (Header.named name) = [] := by
  obtain ⟨hs, hlines⟩ := Edit.filter_foldl_last p rs es hes name init e spelling hlast hsame
  rw [hlines, hremove]
  exact Headers.filter_without_named hs spelling

variable (hset : ∀ hs, e.onHeaders .replaceExisting hs = hs.set spelling value)

include hset

theorem Edit.filter_foldl_last_set :
    (es.foldl (Edit.apply .replaceExisting) p).headers.filter (Header.named name) =
      [⟨spelling, value⟩] := by
  obtain ⟨hs, hlines⟩ := Edit.filter_foldl_last p rs es hes name init e spelling hlast hsame
  rw [hlines, hset]
  exact Headers.filter_set_named hs spelling value

theorem Edit.place_foldl_last_set (front back : Headers)
    (hfront : ∀ line ∈ front, line.named name = false)
    (hremove : back = [] ∨ ∀ e ∈ init, ∀ spelling, e ≠ .removeHeader spelling)
    (hslot : Headers.Slot name front back (p.headers.filter (Header.countsFor name rs))) :
    (es.foldl (Edit.apply .replaceExisting) p).headers.filter (Header.countsFor name rs) =
      front ++ ⟨spelling, value⟩ :: back := by
  have hlines := Edit.filter_foldl_rules p rs es hes name .replaceExisting
    (Header.countsFor name rs) (fun _ hn => by rw [Header.countsFor, hn, Bool.true_or])
    fun _ hk => (Bool.or_eq_true _ _).mp hk
  have hinit : ∀ e ∈ init, e.target.isHeader name = true := by
    intro e' he'
    have hmem : e' ∈ es.filter fun e => e.target.isHeader name := by
      rw [hlast]
      exact List.mem_append_left _ he'
    exact (List.mem_filter.mp hmem).2
  rw [hlines, hlast, List.foldl_append, List.foldl_cons, List.foldl_nil, hset]
  exact (hslot.foldl name front back _ hfront init hinit hremove).set_eq name front back _ hfront
    spelling value hsame

end

theorem Headers.slot_of_first (hedited : ∃ e ∈ es, e.target.isHeader name = true)
    (front : Headers) (first : Header) (back : Headers)
    (hsource : p.headers = front ++ first :: back) (hfirst : first.named name = true)
    (hfront : ∀ line ∈ front, line.named name = false) :
    Headers.Slot name (front.filter (Header.untouchedBy rs)) (back.filter (Header.untouchedBy rs))
      (p.headers.filter (Header.countsFor name rs)) := by
  refine ⟨first :: back.filter (Header.countsFor name rs), ?_, ?_, ?_⟩
  · rw [hsource, List.filter_append, List.filter_cons_of_pos,
      Headers.filter_place_other rs name front hfront]
    rw [Header.countsFor, hfirst, Bool.true_or]
  · rw [← Headers.filter_place_without rs es hes name hedited back, Headers.without,
      Headers.without, List.filter_cons_of_neg]
    simp [hfirst]
  · rintro line ⟨⟩
    exact hfirst

end

theorem Headers.slot_of_absent (p : Record) (rs : List Rule) (name : String)
    (hother : ∀ line ∈ p.headers, line.named name = false) :
    Headers.Slot name (p.headers.filter (Header.untouchedBy rs)) []
      (p.headers.filter (Header.countsFor name rs)) := by
  refine ⟨[], ?_, rfl, by simp⟩
  rw [Headers.filter_place_other rs name p.headers hother, List.append_nil]

theorem Edit.ne_remove_of_rules (before : List Rule) (init : List Edit)
    (h : compileFrom 0 before = .ok init)
    (hbefore : ∀ s ∈ before, Operation.parse s.operation ≠ some .remove) :
    ∀ e ∈ init, ∀ spelling, e ≠ .removeHeader spelling := by
  rintro _ he spelling rfl
  obtain ⟨s, hs, hc⟩ := compileFrom_mem 0 before init h _ he
  have ht := s.parse_target_of_compile _ hc
  cases (s.onHeader_of_compile _ spelling hc ht).2 with
  | remove hop => exact hbefore s hs hop

/-- **The last rule of a header decides when names are not to repeat.** Without a rule of the name
its lines are those of the source. When the last rule of the name removes it, no line of it is left.
When that rule sets or adds it, one line of it is left, with the rule's spelling and value. Among the
lines that no rule edits, that line stands where the first line of the name stood in the source, if
no rule removes the name, and after all of them if the name did not occur in the source. -/
theorem applyRules_last_on_header (p q : Record) (rs : List Rule) (name : String)
    (h : applyRules p rs .replaceExisting = .ok q) :
    (rs.filter (Rule.editsHeader name) = [] →
      q.headers.filter (Header.named name) = p.headers.filter (Header.named name)) ∧
    ∀ r, (rs.filter (Rule.editsHeader name)).getLast? = some r →
      (Operation.parse r.operation = some .remove ∧
        q.headers.filter (Header.named name) = []) ∨
      ((Operation.parse r.operation = some .set ∨ Operation.parse r.operation = some .add) ∧
        ∃ spelling value, Target.parse r.target = some (.header spelling) ∧
          r.value = some value ∧
          q.headers.filter (Header.named name) = [⟨spelling, value⟩] ∧
          (∀ front first back, p.headers = front ++ first :: back → first.named name = true →
            (∀ line ∈ front, line.named name = false) →
            (∀ s ∈ rs.filter (Rule.editsHeader name),
              Operation.parse s.operation ≠ some .remove) →
            q.headers.filter (Header.countsFor name rs) =
              front.filter (Header.untouchedBy rs) ++
                ⟨spelling, value⟩ :: back.filter (Header.untouchedBy rs)) ∧
          ((∀ line ∈ p.headers, line.named name = false) →
            q.headers.filter (Header.countsFor name rs) =
              p.headers.filter (Header.untouchedBy rs) ++ [⟨spelling, value⟩])) := by
  obtain ⟨es, hes, rfl⟩ := (applyRules_ok_iff p _ rs q).mp h
  constructor
  · intro hnone
    have hedits := Rule.compileFrom_editsHeader rs es hes name
    rw [hnone] at hedits
    rw [Edit.filter_foldl_rules p rs es hes name .replaceExisting (Header.named name)
      (fun _ hn => hn) fun _ hn => .inl hn, ← Except.ok.inj hedits, List.foldl_nil]
  intro r hlast
  obtain ⟨before, hbefore⟩ := List.getLast?_eq_some_iff.mp hlast
  obtain ⟨init, e, spelling, hinit, hsplit, hsame, ht, hon⟩ :=
    Rule.exists_last_edit rs es hes name before r hbefore
  have hmem : e ∈ es.filter fun e => e.target.isHeader name := by
    rw [hsplit]
    exact List.mem_append_right _ List.mem_cons_self
  rcases hon.cases_replacing r e spelling with ⟨hop, hremove⟩ | ⟨hop, value, hvalue, hset⟩
  · exact .inl ⟨hop,
      Edit.filter_foldl_last_remove p rs es hes name init e spelling hsplit hsame hremove⟩
  have hplace := Edit.place_foldl_last_set p rs es hes name init e spelling value hsplit hsame hset
  refine .inr ⟨hop, spelling, value, ht, hvalue,
    Edit.filter_foldl_last_set p rs es hes name init e spelling value hsplit hsame hset, ?_, ?_⟩
  · intro front first back hsource hfirst hfront hkept
    have hstay := Edit.ne_remove_of_rules before init hinit fun s hs => hkept s (by
      rw [hbefore]
      exact List.mem_append_left _ hs)
    exact hplace _ _ (fun line hline => hfront line (List.mem_filter.mp hline).1) (.inr hstay)
      (Headers.slot_of_first p rs es hes name ⟨e, List.mem_filter.mp hmem⟩ front first back hsource
        hfirst hfront)
  · intro hother
    exact hplace _ [] (fun line hline => hother line (List.mem_filter.mp hline).1) (.inl rfl)
      (Headers.slot_of_absent p rs name hother)

theorem applyRules_last_on_header_repeating :
    let p := { Record.repeating with headers := ⟨"h", "0"⟩ :: Record.repeating.headers }
    let rs := [.setHeader "a" "4", .addHeader "C" "6", .addHeader "A" "5"]
    let q := { p with headers := [⟨"h", "0"⟩, ⟨"A", "5"⟩, ⟨"b", "2"⟩, ⟨"C", "6"⟩] }
    applyRules p rs .replaceExisting = .ok q ∧
      (rs.filter (Rule.editsHeader "a")).getLast? = some (.addHeader "A" "5") ∧
      q.headers.filter (Header.named "a") = [⟨"A", "5"⟩] ∧
      q.headers.filter (Header.countsFor "a" rs) = [⟨"h", "0"⟩, ⟨"A", "5"⟩, ⟨"b", "2"⟩] := by
  intro p rs q
  have h : applyRules p rs .replaceExisting = .ok q := by decide +kernel +revert
  have hlast : (rs.filter (Rule.editsHeader "a")).getLast? = some (.addHeader "A" "5") := by
    decide +kernel +revert
  have hfront : ∀ line ∈ [(⟨"h", "0"⟩ : Header)], line.named "a" = false := by decide
  have hkept : ∀ s ∈ rs.filter (Rule.editsHeader "a"),
      Operation.parse s.operation ≠ some .remove := by decide +kernel +revert
  have hrest : [⟨"h", "0"⟩].filter (Header.untouchedBy rs) ++
      ⟨"A", "5"⟩ :: [⟨"b", "2"⟩, ⟨"a", "3"⟩].filter (Header.untouchedBy rs) =
        [⟨"h", "0"⟩, ⟨"A", "5"⟩, ⟨"b", "2"⟩] := by decide +kernel +revert
  have htarget : Target.parse (Rule.addHeader "A" "5").target = some (.header "A") := by
    decide +kernel
  rcases (applyRules_last_on_header p q rs "a" h).2 _ hlast with
    ⟨hop, -⟩ | ⟨-, spelling, value, ht, hvalue, hone, hplace, -⟩
  · exact absurd hop (by decide +kernel)
  rw [htarget] at ht
  cases ht
  cases hvalue
  have hfirst := hplace [⟨"h", "0"⟩] ⟨"A", "1"⟩ [⟨"b", "2"⟩, ⟨"a", "3"⟩] rfl rfl hfront hkept
  exact ⟨h, hlast, hone, hfirst.trans hrest⟩

/-- What a rule of a name makes of the name's values when names may repeat, with `set` for what
setting one makes of them. -/
def Rule.valuesAfter (set : String → List String → List String) (values : List String) (r : Rule) :
    List String :=
  match Operation.parse r.operation, r.value with
  | some .set, some value => set value values
  | some .add, some value => values ++ [value]
  | some .remove, _ => []
  | _, _ => values

def singleValue (value : String) (_ : List String) : List String :=
  [value]

def firstReplaced (value : String) (values : List String) : List String :=
  value :: values.tail

section

variable (name : String)

theorem Edit.values_apply_same (r : Rule) (e : Edit) (p : Record) (h : r.compile = .ok e)
    (hn : r.editsHeader name = true) :
    (e.apply .allowDuplicates p).headers.values name =
      r.valuesAfter singleValue (p.headers.values name) := by
  obtain ⟨spelling, hsame, -, hon⟩ := r.exists_onHeader e name h hn
  rw [Headers.values, Headers.values, Header.named_congr name spelling hsame, Edit.headers_apply]
  cases hon with
  | set value hop hvalue =>
    rw [Rule.valuesAfter, hop, hvalue]
    exact congrArg (List.map Header.value) (p.headers.filter_set_named spelling value)
  | add value hop hvalue =>
    rw [Rule.valuesAfter, hop, hvalue]
    exact (congrArg (List.map Header.value) (p.headers.filter_add_named spelling value)).trans
      List.map_append
  | remove hop =>
    rw [Rule.valuesAfter, hop]
    exact congrArg (List.map Header.value) (p.headers.filter_without_named spelling)

theorem Edit.values_apply_other (r : Rule) (e : Edit) (p : Record) (h : r.compile = .ok e)
    (hn : r.editsHeader name = false) :
    (e.apply .allowDuplicates p).headers.values name = p.headers.values name := by
  rw [r.editsHeader_of_compile e h] at hn
  exact congrArg (List.map Header.value) (e.filter_named_other _ p name hn)

theorem Edit.values_foldl (rs : List Rule) (es : List Edit) (p : Record)
    (h : List.Forall₂ (fun r e => r.compile = .ok e) rs es) :
    (es.foldl (Edit.apply .allowDuplicates) p).headers.values name =
      (rs.filter (Rule.editsHeader name)).foldl (Rule.valuesAfter singleValue)
        (p.headers.values name) := by
  induction h generalizing p with
  | nil => rfl
  | @cons r e rs es hr _ ih =>
    rw [List.foldl_cons, ih, List.filter_cons]
    by_cases hn : r.editsHeader name = true
    · rw [if_pos hn, List.foldl_cons, Edit.values_apply_same name r e p hr hn]
    · rw [if_neg hn, Edit.values_apply_other name r e p hr (by simpa using hn)]

/-- Both ways of setting come to the same as long as there is one value at most to be set. -/
theorem Rule.foldl_valuesAfter (rs : List Rule) (values : List String)
    (h : ∀ before r after, rs = before ++ r :: after → Operation.parse r.operation = some .set →
      (before.foldl (Rule.valuesAfter firstReplaced) values).length ≤ 1) :
    rs.foldl (Rule.valuesAfter singleValue) values =
      rs.foldl (Rule.valuesAfter firstReplaced) values := by
  induction rs generalizing values with
  | nil => rfl
  | cons r rs ih =>
    have hr : r.valuesAfter singleValue values = r.valuesAfter firstReplaced values := by
      by_cases hop : Operation.parse r.operation = some .set
      · have hshort : values.tail = [] := by
          rw [← List.length_eq_zero_iff, List.length_tail]
          exact Nat.sub_eq_zero_of_le (h [] r rs rfl hop)
        cases hv : r.value <;> simp [Rule.valuesAfter, hop, hv, singleValue, firstReplaced, hshort]
      · unfold Rule.valuesAfter
        split
        · rename_i hset _
          exact absurd hset hop
        all_goals rfl
    rw [List.foldl_cons, List.foldl_cons, hr]
    exact ih _ fun before s after hrs hop => h (r :: before) s after (by rw [hrs]; rfl) hop

end

/-- **The values of a header when names may repeat.** They are the source's values with the rules of
the name carried out on them in order: adding puts a value at the end, removing leaves none, and
setting leaves the new value alone. As long as setting meets one value at most, this is the same as
putting the new value in the place of the first and leaving the others. -/
theorem applyRules_values_of_header (p q : Record) (rs : List Rule) (name : String)
    (h : applyRules p rs .allowDuplicates = .ok q) :
    let edits := rs.filter (Rule.editsHeader name)
    q.headers.values name =
      edits.foldl (Rule.valuesAfter singleValue) (p.headers.values name) ∧
    ((∀ before r after, edits = before ++ r :: after → Operation.parse r.operation = some .set →
        (before.foldl (Rule.valuesAfter firstReplaced) (p.headers.values name)).length ≤ 1) →
      q.headers.values name =
        edits.foldl (Rule.valuesAfter firstReplaced) (p.headers.values name)) := by
  intro edits
  obtain ⟨es, hes, rfl⟩ := (applyRules_ok_iff p _ rs q).mp h
  have hvalues := Edit.values_foldl name rs es p ((compileFrom_ok_iff 0 rs es).mp hes)
  refine ⟨hvalues, fun hfew => ?_⟩
  rw [hvalues]
  exact Rule.foldl_valuesAfter edits (p.headers.values name) hfew

theorem applyRules_values_of_header_repeating :
    let rs := [.setHeader "a" "4", .setHeader "B" "5", .addHeader "b" "6"]
    let q := { Record.repeating with headers := [⟨"a", "4"⟩, ⟨"B", "5"⟩, ⟨"b", "6"⟩] }
    applyRules .repeating rs .allowDuplicates = .ok q ∧
      q.headers.values "A" = (rs.filter (Rule.editsHeader "A")).foldl (Rule.valuesAfter singleValue)
        (Record.repeating.headers.values "A") ∧
      q.headers.values "b" = (rs.filter (Rule.editsHeader "b")).foldl
        (Rule.valuesAfter firstReplaced) (Record.repeating.headers.values "b") := by
  intro rs q
  have h : applyRules .repeating rs .allowDuplicates = .ok q := by decide +kernel +revert
  have hedits : rs.filter (Rule.editsHeader "b") = [.setHeader "B" "5", .addHeader "b" "6"] := by
    decide +kernel +revert
  refine ⟨h, (applyRules_values_of_header .repeating q rs "A" h).1,
    (applyRules_values_of_header .repeating q rs "b" h).2 ?_⟩
  rw [hedits]
  intro before r after hsplit hop
  match before with
  | [] => decide
  | [_] =>
    cases hsplit
    exact absurd hop (by decide +kernel)
  | _ :: _ :: _ => simp at hsplit

/-- Setting a name does not leave the values after the first. -/
theorem not_set_keeps_rest :
    ¬ ∀ p q rs name, applyRules p rs .allowDuplicates = .ok q →
      q.headers.values name = (rs.filter (Rule.editsHeader name)).foldl
        (Rule.valuesAfter firstReplaced) (p.headers.values name) := by
  intro hall
  have h : applyRules .repeating [.setHeader "a" "4"] .allowDuplicates =
      .ok { Record.repeating with headers := [⟨"a", "4"⟩, ⟨"b", "2"⟩] } := by decide +kernel
  have hvalues := hall _ _ _ "A" h
  revert hvalues
  decide +kernel

end PacketReplay
