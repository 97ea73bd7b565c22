import PacketReplay.Proofs.HeaderNames
import PacketReplay.Proofs.RuleList

set_option autoImplicit false

namespace PacketReplay

inductive Part where
  | headers | url | body | method
deriving DecidableEq

def Target.part : Target → Part
  | .header _ => .headers
  | .url => .url
  | .body => .body
  | .method => .method

def Target.isHeader (name : String) : Target → Bool
  | .header other => sameIgnoringCase name other
  | _ => false

def Rule.part? (r : Rule) : Option Part :=
  (Target.parse r.target).map Target.part

def Rule.edits (part : Part) (r : Rule) : Bool :=
  r.part? == some part

def Rule.editsHeader (name : String) (r : Rule) : Bool :=
  (Target.parse r.target).any (Target.isHeader name)

def Header.untouchedBy (rs : List Rule) (h : Header) : Bool :=
  rs.all fun r => !r.editsHeader h.name

def Edit.target : Edit → Target
  | .setHeader name _ => .header name
  | .addHeader name _ => .header name
  | .removeHeader name => .header name
  | .setUrl _ => .url
  | .replaceInUrl _ _ => .url
  | .regexInUrl _ _ => .url
  | .setBody _ => .body
  | .appendBody _ => .body
  | .removeBody => .body
  | .replaceInBody _ _ => .body
  | .regexInBody _ _ => .body
  | .setMethod _ => .method

def Record.AgreesOn (p : Record) (part : Part) (q : Record) : Prop :=
  match part with
  | .headers => p.headers = q.headers
  | .url => p.url = q.url
  | .body => p.body = q.body
  | .method => p.method = q.method

/-- Records that have in common what no rule can edit. -/
structure Record.SameRest (p q : Record) : Prop where
  id : p.id = q.id
  status : p.status = q.status
  responseHeaders : p.responseHeaders = q.responseHeaders
  responseBody : p.responseBody = q.responseBody
  timestamp : p.timestamp = q.timestamp
  origin : p.origin = q.origin

namespace Record.SameRest

theorem refl (p : Record) : p.SameRest p := by
  constructor <;> rfl

theorem symm {p q : Record} (h : p.SameRest q) : q.SameRest p :=
  ⟨h.id.symm, h.status.symm, h.responseHeaders.symm, h.responseBody.symm, h.timestamp.symm,
    h.origin.symm⟩

theorem trans {p q r : Record} (h : p.SameRest q) (h' : q.SameRest r) : p.SameRest r :=
  ⟨h.id.trans h'.id, h.status.trans h'.status, h.responseHeaders.trans h'.responseHeaders,
    h.responseBody.trans h'.responseBody, h.timestamp.trans h'.timestamp, h.origin.trans h'.origin⟩

end Record.SameRest

namespace Record.AgreesOn

theorem refl (p : Record) (part : Part) : p.AgreesOn part p := by
  cases part <;> rfl

theorem symm {p q : Record} {part : Part} (h : p.AgreesOn part q) : q.AgreesOn part p := by
  cases part <;> exact Eq.symm h

theorem trans {p q r : Record} {part : Part} (h : p.AgreesOn part q) (h' : q.AgreesOn part r) :
    p.AgreesOn part r := by
  cases part <;> exact Eq.trans h h'

end Record.AgreesOn

theorem Record.eq_of_agreesOn (p q : Record) (hrest : p.SameRest q)
    (hparts : ∀ part, p.AgreesOn part q) : p = q := by
  obtain ⟨⟨method, url, status, headers, body, responseHeaders, responseBody, timestamp, origin⟩,
    id⟩ := p
  obtain ⟨hid, hstatus, hresponse, hbody, htime, horigin⟩ := hrest
  have hheaders : headers = q.headers := hparts .headers
  have hurl : url = q.url := hparts .url
  have hsent : body = q.body := hparts .body
  have hmethod : method = q.method := hparts .method
  cases q
  simp_all

theorem bind_eq_ok {ε α β : Type} {x : Except ε α} {f : α → Except ε β} {b : β}
    (h : (x >>= f) = .ok b) : ∃ a, x = .ok a ∧ f a = .ok b := by
  cases x with
  | error e => cases h
  | ok a => exact ⟨a, rfl, h⟩

section

variable (r : Rule) (op : Operation) (e : Edit)

theorem Rule.target_of_headerEdit (name : String) (h : r.headerEdit op name = .ok e) :
    e.target = .header name := by
  unfold headerEdit at h
  split at h
  · cases h
  · cases op with
    | set | add =>
      obtain ⟨value, -, h⟩ := bind_eq_ok h
      cases h
      rfl
    | remove =>
      cases h
      rfl
    | replace | regexReplace => cases h

theorem Rule.target_of_urlEdit (h : r.urlEdit op = .ok e) : e.target = .url := by
  cases op with
  | set =>
    obtain ⟨url, -, h⟩ := bind_eq_ok h
    split at h
    · cases h
    · cases h
      rfl
  | replace | regexReplace =>
    obtain ⟨pattern, -, h⟩ := bind_eq_ok h
    obtain ⟨value, -, h⟩ := bind_eq_ok h
    cases h
    rfl
  | add | remove => cases h

theorem Rule.target_of_bodyEdit (h : r.bodyEdit op = .ok e) : e.target = .body := by
  cases op with
  | set | add =>
    obtain ⟨value, -, h⟩ := bind_eq_ok h
    cases h
    rfl
  | remove =>
    cases h
    rfl
  | replace | regexReplace =>
    obtain ⟨pattern, -, h⟩ := bind_eq_ok h
    obtain ⟨value, -, h⟩ := bind_eq_ok h
    cases h
    rfl

theorem Rule.target_of_methodEdit (h : r.methodEdit op = .ok e) : e.target = .method := by
  cases op with
  | set =>
    obtain ⟨value, -, h⟩ := bind_eq_ok h
    split at h
    · cases h
      rfl
    · cases h
  | add | remove | replace | regexReplace => cases h

theorem Rule.parse_target_of_compile (h : r.compile = .ok e) :
    Target.parse r.target = some e.target := by
  unfold compile at h
  split at h
  · cases h
  · split at h
    · rename_i name ht
      rw [ht, r.target_of_headerEdit _ e name h]
    · rename_i ht
      rw [ht, r.target_of_urlEdit _ e h]
    · rename_i ht
      rw [ht, r.target_of_bodyEdit _ e h]
    · rename_i ht
      rw [ht, r.target_of_methodEdit _ e h]
    · cases h

theorem Rule.edits_of_compile (h : r.compile = .ok e) (part : Part) :
    r.edits part = (e.target.part == part) := by
  rw [edits, part?, r.parse_target_of_compile e h, Option.map_some]
  rfl

theorem Rule.editsHeader_of_compile (h : r.compile = .ok e) (name : String) :
    r.editsHeader name = e.target.isHeader name := by
  rw [editsHeader, r.parse_target_of_compile e h, Option.any_some]

end

/-- Lines of a header that is edited do not have a name that is not. -/
theorem Target.named_other (t : Target) (name : String) (h : t.isHeader name = false)
    (header : Header) (hheader : t.isHeader header.name = true) : header.named name = false := by
  rw [← Bool.not_eq_true]
  intro hnamed
  cases t with
  | header other =>
    have hsame := Header.sameIgnoringCase_of_named name other header hnamed hheader
    rw [isHeader, hsame] at h
    cases h
  | url | body | method => cases hheader

section

variable (e : Edit) (policy : Policy) (p : Record)

theorem Edit.apply_sameRest : (e.apply policy p).SameRest p := by
  cases e with
  | addHeader name value => cases policy <;> constructor <;> rfl
  | _ => constructor <;> rfl

theorem Edit.apply_other (part : Part) (h : e.target.part ≠ part) :
    (e.apply policy p).AgreesOn part p := by
  cases part with
  | headers =>
    cases e with
    | setHeader | addHeader | removeHeader => exact absurd rfl h
    | _ => rfl
  | url =>
    cases e with
    | setUrl | replaceInUrl | regexInUrl => exact absurd rfl h
    | addHeader => cases policy <;> rfl
    | _ => rfl
  | body =>
    cases e with
    | setBody | appendBody | removeBody | replaceInBody | regexInBody => exact absurd rfl h
    | addHeader => cases policy <;> rfl
    | _ => rfl
  | method =>
    cases e with
    | setMethod => exact absurd rfl h
    | addHeader => cases policy <;> rfl
    | _ => rfl

theorem Edit.apply_agreesOn (q : Record) (h : p.AgreesOn e.target.part q) :
    (e.apply policy p).AgreesOn e.target.part (e.apply policy q) := by
  cases e with
  | setHeader name value => exact congrArg (Headers.set · name value) h
  | addHeader name value =>
    cases policy with
    | allowDuplicates => exact congrArg (Headers.add · name value) h
    | replaceExisting => exact congrArg (Headers.set · name value) h
  | removeHeader name => exact congrArg (Headers.without · name) h
  | replaceInUrl pattern value => exact congrArg (replaceText pattern value) h
  | regexInUrl regex value => exact congrArg (regexReplaceText regex value) h
  | appendBody extra => exact congrArg (fun body => some (body.getD [] ++ extra)) h
  | replaceInBody pattern value => exact congrArg (Option.map (replaceAll pattern value)) h
  | regexInBody regex value => exact congrArg (Option.map (regex.replaceAll value)) h
  | setUrl | setBody | removeBody | setMethod => rfl

theorem Edit.filter_headers_apply (keep : Header → Bool)
    (hkeep : ∀ h : Header, e.target.isHeader h.name = true → keep h = false) :
    (e.apply policy p).headers.filter keep = p.headers.filter keep := by
  cases e with
  | setHeader name value => exact p.headers.filter_set_other name value keep hkeep
  | addHeader name value =>
    cases policy with
    | allowDuplicates => exact p.headers.filter_add_other name value keep hkeep
    | replaceExisting => exact p.headers.filter_set_other name value keep hkeep
  | removeHeader name => exact p.headers.filter_without_other name keep hkeep
  | _ => rfl

theorem Edit.filter_named_other (name : String) (h : e.target.isHeader name = false) :
    (e.apply policy p).headers.filter (Header.named name) =
      p.headers.filter (Header.named name) :=
  e.filter_headers_apply policy p _ fun header hheader => e.target.named_other name h header hheader

/-- What an edit of a name makes of its lines depends on these lines only. -/
theorem Edit.filter_named_same (name : String) (h : e.target.isHeader name = true) (q : Record)
    (hq : p.headers.filter (Header.named name) = q.headers.filter (Header.named name)) :
    (e.apply policy p).headers.filter (Header.named name) =
      (e.apply policy q).headers.filter (Header.named name) := by
  cases e with
  | setHeader other value =>
    rw [Header.named_congr name other h]
    exact (p.headers.filter_set_named other value).trans
      (q.headers.filter_set_named other value).symm
  | addHeader other value =>
    rw [Header.named_congr name other h] at hq ⊢
    cases policy with
    | allowDuplicates =>
      have hp := p.headers.filter_add_named other value
      rw [hq] at hp
      exact hp.trans (q.headers.filter_add_named other value).symm
    | replaceExisting =>
      exact (p.headers.filter_set_named other value).trans
        (q.headers.filter_set_named other value).symm
  | removeHeader other =>
    rw [Header.named_congr name other h]
    exact (p.headers.filter_without_named other).trans (q.headers.filter_without_named other).symm
  | _ => cases h

end

/-- A relation that only some steps can touch, and that these keep, holds between what all steps
lead to and what these alone lead to. -/
theorem foldl_filter_related {α β : Type} (f : α → β → α) (R : α → α → Prop) (touches : β → Bool)
    (hskip : ∀ a a' b, touches b = false → R a a' → R (f a b) a')
    (hstep : ∀ a a' b, touches b = true → R a a' → R (f a b) (f a' b)) (bs : List β) (a a' : α)
    (h : R a a') : R (bs.foldl f a) ((bs.filter touches).foldl f a') := by
  induction bs generalizing a a' with
  | nil => exact h
  | cons b bs ih =>
    rw [List.foldl_cons]
    cases hb : touches b with
    | true =>
      rw [List.filter_cons_of_pos hb, List.foldl_cons]
      exact ih _ _ (hstep a a' b hb h)
    | false =>
      rw [List.filter_cons_of_neg (by rw [hb]; decide)]
      exact ih _ _ (hskip a a' b hb h)

section

variable (es : List Edit) (policy : Policy) (p : Record)

theorem Edit.foldl_sameRest : (es.foldl (Edit.apply policy) p).SameRest p := by
  induction es generalizing p with
  | nil => exact .refl p
  | cons e es ih => exact (ih (e.apply policy p)).trans (e.apply_sameRest policy p)

theorem Edit.foldl_agreesOn (part : Part) :
    (es.foldl (Edit.apply policy) p).AgreesOn part
      ((es.filter fun e => e.target.part == part).foldl (Edit.apply policy) p) := by
  refine foldl_filter_related _ (fun a a' => Record.AgreesOn a part a') _ ?_ ?_ es p p
    (Record.AgreesOn.refl p part)
  · intro a a' e he h
    exact (e.apply_other policy a part (by simpa using he)).trans h
  · intro a a' e he h
    obtain rfl : e.target.part = part := by simpa using he
    exact e.apply_agreesOn policy a a' h

/-- What becomes of the lines of a name is decided by the edits of that name. -/
theorem Edit.foldl_named (name : String) :
    (es.foldl (Edit.apply policy) p).headers.filter (Header.named name) =
      ((es.filter fun e => e.target.isHeader name).foldl (Edit.apply policy) p).headers.filter
        (Header.named name) := by
  refine foldl_filter_related _
    (fun a a' : Record =>
      a.headers.filter (Header.named name) = a'.headers.filter (Header.named name))
    _ ?_ ?_ es p p rfl
  · intro a a' e he h
    exact (e.filter_named_other policy a name he).trans h
  · intro a a' e he h
    exact e.filter_named_same policy a name he a' h

theorem Edit.foldl_untouched (keep : Header → Bool)
    (hkeep : ∀ e ∈ es, ∀ h : Header, e.target.isHeader h.name = true → keep h = false) :
    (es.foldl (Edit.apply policy) p).headers.filter keep = p.headers.filter keep := by
  induction es generalizing p with
  | nil => rfl
  | cons e es ih =>
    obtain ⟨he, hes⟩ := List.forall_mem_cons.mp hkeep
    rw [List.foldl_cons, ih _ hes, e.filter_headers_apply policy p keep he]

theorem Edit.foldl_congr (es' : List Edit)
    (h : ∀ part, es.filter (fun e => e.target.part == part) =
      es'.filter fun e => e.target.part == part) :
    es.foldl (Edit.apply policy) p = es'.foldl (Edit.apply policy) p := by
  apply Record.eq_of_agreesOn
  · exact (Edit.foldl_sameRest es policy p).trans (Edit.foldl_sameRest es' policy p).symm
  · intro part
    have hall := Edit.foldl_agreesOn es policy p part
    rw [h part] at hall
    exact hall.trans (Edit.foldl_agreesOn es' policy p part).symm

end

/-- Rules that are told apart by their edits are compiled to the edits that are told apart. -/
theorem compileFrom_filter (rs : List Rule) (es : List Edit) (h : compileFrom 0 rs = .ok es)
    (keep : Rule → Bool) (keep' : Edit → Bool)
    (hkeep : ∀ r e, r.compile = .ok e → keep r = keep' e) :
    compileFrom 0 (rs.filter keep) = .ok (es.filter keep') := by
  rw [compileFrom_ok_iff] at h ⊢
  refine List.rel_filter (fun r e hr => ?_) h
  change keep r = true ↔ keep' e = true
  rw [hkeep r e hr]

section

variable (p : Record) (policy : Policy)

theorem applyRules_congr (rs rs' : List Rule) (q q' : Record)
    (h : applyRules p rs policy = .ok q) (h' : applyRules p rs' policy = .ok q')
    (hparts : ∀ part, rs.filter (Rule.edits part) = rs'.filter (Rule.edits part)) : q = q' := by
  obtain ⟨es, hes, rfl⟩ := (applyRules_ok_iff p policy rs q).mp h
  obtain ⟨es', hes', rfl⟩ := (applyRules_ok_iff p policy rs' q').mp h'
  apply Edit.foldl_congr
  intro part
  have hf := compileFrom_filter rs es hes (Rule.edits part) (fun e => e.target.part == part)
    fun r e hr => r.edits_of_compile e hr part
  have hf' := compileFrom_filter rs' es' hes' (Rule.edits part) (fun e => e.target.part == part)
    fun r e hr => r.edits_of_compile e hr part
  rw [hparts part, hf'] at hf
  exact (Except.ok.inj hf).symm

theorem applyRules_perm (rs rs' : List Rule) (q : Record) (h : applyRules p rs policy = .ok q)
    (hperm : rs'.Perm rs)
    (hparts : ∀ part, rs'.filter (Rule.edits part) = rs.filter (Rule.edits part)) :
    applyRules p rs' policy = .ok q := by
  have hall := (applyRules_exists_iff p policy rs).mp ⟨q, h⟩
  obtain ⟨q', h'⟩ := (applyRules_exists_iff p policy rs').mpr
    fun r hr => hall r (hperm.mem_iff.mp hr)
  rw [h', applyRules_congr p policy rs' rs q' q h' h hparts]

end

theorem filter_edits_move (part : Part) (r : Rule) (passed : List Rule)
    (h : ∀ s ∈ passed, s.part? ≠ r.part?) :
    (passed ++ [r]).filter (Rule.edits part) = (r :: passed).filter (Rule.edits part) := by
  cases hr : r.edits part with
  | false => simp [hr]
  | true =>
    have hpassed : passed.filter (Rule.edits part) = [] := by
      rw [List.filter_eq_nil_iff]
      intro s hs hsame
      rw [Rule.edits, beq_iff_eq] at hr hsame
      exact h s hs (hsame.trans hr.symm)
    simp [hr, hpassed]

/-- **Edits touch only their own target.** Let rules make a record of another. What rules cannot
edit is the same in both. Each part is what the rules of that part alone would have made of it, and
so are the lines of each header name; the lines whose names no rule edits are the same lines in the
same order. And a rule can be moved past rules of other parts, either way, without changing what
comes out. -/
theorem applyRules_touches_target (p q : Record) (policy : Policy) (rs : List Rule)
    (h : applyRules p rs policy = .ok q) :
    q.SameRest p ∧
    (∀ part, ∃ m, applyRules p (rs.filter (Rule.edits part)) policy = .ok m ∧
      q.AgreesOn part m) ∧
    (∀ name, ∃ m, applyRules p (rs.filter (Rule.editsHeader name)) policy = .ok m ∧
      q.headers.filter (Header.named name) = m.headers.filter (Header.named name)) ∧
    q.headers.filter (Header.untouchedBy rs) = p.headers.filter (Header.untouchedBy rs) ∧
    ∀ before r passed after, (∀ s ∈ passed, s.part? ≠ r.part?) →
      (rs = before ++ r :: passed ++ after →
        applyRules p (before ++ (passed ++ [r]) ++ after) policy = .ok q) ∧
      (rs = before ++ (passed ++ [r]) ++ after →
        applyRules p (before ++ r :: passed ++ after) policy = .ok q) := by
  obtain ⟨es, hes, hq⟩ := (applyRules_ok_iff p policy rs q).mp h
  refine ⟨?_, ?_, ?_, ?_, ?_⟩
  · rw [← hq]
    exact Edit.foldl_sameRest es policy p
  · intro part
    have hf := compileFrom_filter rs es hes (Rule.edits part) (fun e => e.target.part == part)
      fun r e hr => r.edits_of_compile e hr part
    refine ⟨_, (applyRules_ok_iff p policy _ _).mpr ⟨_, hf, rfl⟩, ?_⟩
    rw [← hq]
    exact Edit.foldl_agreesOn es policy p part
  · intro name
    have hf := compileFrom_filter rs es hes (Rule.editsHeader name)
      (fun e => e.target.isHeader name) fun r e hr => r.editsHeader_of_compile e hr name
    refine ⟨_, (applyRules_ok_iff p policy _ _).mpr ⟨_, hf, rfl⟩, ?_⟩
    rw [← hq]
    exact Edit.foldl_named es policy p name
  · rw [← hq]
    apply Edit.foldl_untouched
    intro e he header hheader
    obtain ⟨r, hr, hc⟩ := compileFrom_mem 0 rs es hes e he
    rw [Header.untouchedBy, List.all_eq_false]
    exact ⟨r, hr, by rw [r.editsHeader_of_compile e hc, hheader]; decide⟩
  · intro before r passed after hpassed
    have hparts : ∀ part, (before ++ (passed ++ [r]) ++ after).filter (Rule.edits part) =
        (before ++ r :: passed ++ after).filter (Rule.edits part) := by
      intro part
      simp only [List.filter_append, filter_edits_move part r passed hpassed]
    have hperm : (before ++ (passed ++ [r]) ++ after).Perm (before ++ r :: passed ++ after) :=
      ((List.perm_append_singleton r passed).append_left before).append_right after
    constructor
    · rintro rfl
      exact applyRules_perm p policy _ _ q h hperm hparts
    · rintro rfl
      exact applyRules_perm p policy _ _ q h hperm.symm fun part => (hparts part).symm

def Record.repeating : Record where
  id := 1
  method := .get
  url := "/a"
  status := none
  headers := [⟨"A", "1"⟩, ⟨"b", "2"⟩, ⟨"a", "3"⟩]
  body := none
  responseHeaders := []
  responseBody := none
  timestamp := ⟨1748736000, 0, by decide⟩
  origin := .captured

theorem applyRules_touches_target_repeating :
    let url : Rule := ⟨"url", "set", some "/b", none⟩
    let rs := [.setHeader "a" "4", url, .addHeader "B" "5"]
    let q : Record := { Record.repeating with
      url := "/b", headers := [⟨"a", "4"⟩, ⟨"b", "2"⟩, ⟨"B", "5"⟩] }
    applyRules .repeating rs .allowDuplicates = .ok q ∧
      (∃ m, applyRules .repeating (rs.filter (Rule.editsHeader "A")) .allowDuplicates = .ok m ∧
        q.headers.filter (Header.named "A") = m.headers.filter (Header.named "A")) ∧
      applyRules .repeating [url, .setHeader "a" "4", .addHeader "B" "5"] .allowDuplicates =
        .ok q := by
  intro url rs q
  have hpassed : ∀ s ∈ [url], s.part? ≠ (Rule.setHeader "a" "4").part? := by decide +kernel +revert
  have h : applyRules .repeating rs .allowDuplicates = .ok q := by decide +kernel +revert
  obtain ⟨-, -, hnames, -, hmove⟩ := applyRules_touches_target .repeating q .allowDuplicates rs h
  exact ⟨h, hnames "A", (hmove [] (.setHeader "a" "4") [url] [.addHeader "B" "5"] hpassed).1 rfl⟩

end PacketReplay
