import PacketReplay.Proofs.HeaderOutcome

set_option autoImplicit false

namespace PacketReplay

def Edit.operation : Edit → Operation
  | .setHeader _ _ => .set
  | .addHeader _ _ => .add
  | .removeHeader _ => .remove
  | .setUrl _ => .set
  | .replaceInUrl _ _ => .replace
  | .regexInUrl _ _ => .regexReplace
  | .setBody _ => .set
  | .appendBody _ => .add
  | .removeBody => .remove
  | .replaceInBody _ _ => .replace
  | .regexInBody _ _ => .regexReplace
  | .setMethod _ => .set

def Rule.Puts (r : Rule) : Prop :=
  Operation.parse r.operation = some .set ∨ Operation.parse r.operation = some .add

instance (r : Rule) : Decidable r.Puts :=
  inferInstanceAs (Decidable (_ ∨ _))

def Edit.Puts (e : Edit) : Prop :=
  e.operation = .set ∨ e.operation = .add

/-- A rule that settles its target, as one of a list: it sets something, it adds a header that is not
to be there twice, or it removes a header or the body and no rule puts one there. -/
inductive Rule.Settles (policy : Policy) (rs : List Rule) (r : Rule) : Prop where
  | set (hop : Operation.parse r.operation = some .set)
  | add (hop : Operation.parse r.operation = some .add) (name : String)
    (ht : Target.parse r.target = some (.header name)) (hp : policy = .replaceExisting)
  | removeHeader (hop : Operation.parse r.operation = some .remove) (name : String)
    (ht : Target.parse r.target = some (.header name))
    (hother : ∀ s ∈ rs, s.Puts → s.editsHeader name = false)
  | removeBody (hop : Operation.parse r.operation = some .remove)
    (ht : Target.parse r.target = some .body) (hother : ∀ s ∈ rs, s.Puts → s.edits .body = false)

def Edit.Settles (policy : Policy) (es : List Edit) : Edit → Prop
  | .setHeader _ _ => True
  | .addHeader _ _ => policy = .replaceExisting
  | .removeHeader name => ∀ e ∈ es, e.Puts → e.target.isHeader name = false
  | .setUrl _ => True
  | .setBody _ => True
  | .removeBody => True
  | .setMethod _ => True
  | _ => False

section

variable (r : Rule) (op : Operation) (e : Edit)

theorem Rule.operation_of_headerEdit (name : String) (h : r.headerEdit op name = .ok e) :
    e.operation = op := by
  unfold headerEdit at h
  split at h
  · cases h
  · cases op with
    | set | add =>
      obtain ⟨value, -, h⟩ := bind_eq_ok h
      cases h
      rfl
    | remove =>
      cases h
      rfl
    | replace | regexReplace => cases h

theorem Rule.operation_of_urlEdit (h : r.urlEdit op = .ok e) : e.operation = op := by
  cases op with
  | set =>
    obtain ⟨url, -, h⟩ := bind_eq_ok h
    split at h
    · cases h
    · cases h
      rfl
  | replace | regexReplace =>
    obtain ⟨pattern, -, h⟩ := bind_eq_ok h
    obtain ⟨value, -, h⟩ := bind_eq_ok h
    cases h
    rfl
  | add | remove => cases h

theorem Rule.operation_of_bodyEdit (h : r.bodyEdit op = .ok e) : e.operation = op := by
  cases op with
  | set | add =>
    obtain ⟨value, -, h⟩ := bind_eq_ok h
    cases h
    rfl
  | remove =>
    cases h
    rfl
  | replace | regexReplace =>
    obtain ⟨pattern, -, h⟩ := bind_eq_ok h
    obtain ⟨value, -, h⟩ := bind_eq_ok h
    cases h
    rfl

theorem Rule.operation_of_methodEdit (h : r.methodEdit op = .ok e) : e.operation = op := by
  cases op with
  | set =>
    obtain ⟨value, -, h⟩ := bind_eq_ok h
    split at h
    · cases h
      rfl
    · cases h
  | add | remove | replace | regexReplace => cases h

theorem Rule.parse_operation_of_compile (h : r.compile = .ok e) :
    Operation.parse r.operation = some e.operation := by
  unfold compile at h
  split at h
  · cases h
  · rename_i op hop
    rw [hop]
    split at h
    · rename_i name _
      rw [r.operation_of_headerEdit op e name h]
    · rw [r.operation_of_urlEdit op e h]
    · rw [r.operation_of_bodyEdit op e h]
    · rw [r.operation_of_methodEdit op e h]
    · cases h

end

theorem Edit.settles_of_rule (policy : Policy) (rs : List Rule) (es : List Edit)
    (hes : compileFrom 0 rs = .ok es) (r : Rule) (e : Edit) (hc : r.compile = .ok e)
    (h : r.Settles policy rs) : e.Settles policy es := by
  have hop := r.parse_operation_of_compile e hc
  have ht := r.parse_target_of_compile e hc
  cases h with
  | set hset =>
    rw [hop] at hset
    cases e with
    | setHeader | setUrl | setBody | setMethod => trivial
    | _ => cases hset
  | add hadd name htarget hp =>
    rw [hop] at hadd
    rw [ht] at htarget
    cases e with
    | addHeader => exact hp
    | appendBody => cases htarget
    | _ => cases hadd
  | removeHeader hremove name htarget hother =>
    rw [hop] at hremove
    rw [ht] at htarget
    cases e with
    | removeHeader spelling =>
      cases htarget
      intro d hd hputs
      obtain ⟨s, hs, hcs⟩ := compileFrom_mem 0 rs es hes d hd
      rw [← s.editsHeader_of_compile d hcs]
      refine hother s hs ?_
      rw [Rule.Puts, s.parse_operation_of_compile d hcs, Option.some_inj, Option.some_inj]
      exact hputs
    | removeBody => cases htarget
    | _ => cases hremove
  | removeBody hremove htarget =>
    rw [hop] at hremove
    rw [ht] at htarget
    cases e with
    | removeBody => trivial
    | removeHeader => cases htarget
    | _ => cases hremove

theorem Target.isHeader_congr (t : Target) (a b : String) (h : sameIgnoringCase a b = true) :
    t.isHeader a = t.isHeader b := by
  cases t with
  | header name =>
    rw [Bool.eq_iff_iff]
    change sameIgnoringCase a name = true ↔ sameIgnoringCase b name = true
    rw [sameIgnoringCase_iff, sameIgnoringCase_iff, (sameIgnoringCase_iff a b).mp h]
  | url | body | method => rfl

def nameKey (name : String) : List Char :=
  name.toList.map Char.toLower

def Headers.keys (hs : Headers) : List (List Char) :=
  hs.map fun h => nameKey h.name

theorem Header.named_iff (name : String) (h : Header) :
    h.named name = true ↔ nameKey h.name = nameKey name :=
  sameIgnoringCase_iff h.name name

namespace Headers

theorem length_filter_named (hs : Headers) (name : String) :
    (hs.filter (Header.named name)).length = hs.keys.count (nameKey name) := by
  rw [keys, List.count, List.countP_map, List.countP_eq_length_filter]
  rfl

theorem eq_of_keys (hs hs' : Headers) (hkeys : hs.keys = hs'.keys)
    (hlines : ∀ name, hs.filter (Header.named name) = hs'.filter (Header.named name)) :
    hs = hs' := by
  induction hs generalizing hs' with
  | nil => exact (List.map_eq_nil_iff.mp hkeys.symm).symm
  | cons h hs ih =>
    cases hs' with
    | nil => cases hkeys
    | cons h' hs' =>
      obtain ⟨hkey, hrest⟩ := List.cons.inj hkeys
      have hself : h.named h.name = true := sameIgnoringCase_self h.name
      have hsame : h'.named h.name = true := (h'.named_iff h.name).mpr hkey.symm
      have hhead := hlines h.name
      rw [List.filter_cons_of_pos hself, List.filter_cons_of_pos hsame] at hhead
      obtain ⟨rfl, -⟩ := List.cons.inj hhead
      rw [ih hs' hrest fun name => ?_]
      have hname := hlines name
      by_cases hn : h.named name = true
      · rw [List.filter_cons_of_pos hn, List.filter_cons_of_pos hn] at hname
        exact (List.cons.inj hname).2
      · rwa [List.filter_cons_of_neg hn, List.filter_cons_of_neg hn] at hname

theorem keys_set (hs : Headers) (name value : String) (h : hs.keys.count (nameKey name) = 1) :
    (hs.set name value).keys = hs.keys := by
  rw [← length_filter_named] at h
  induction hs with
  | nil => cases h
  | cons line hs ih =>
    by_cases hn : line.named name = true
    · rw [List.filter_cons_of_pos hn, List.length_cons] at h
      have hnone : hs.filter (Header.named name) = [] :=
        List.length_eq_zero_iff.mp (Nat.succ.inj h)
      have hrest : without hs name = hs := by
        apply without_eq_self
        simpa using List.filter_eq_nil_iff.mp hnone
      rw [set_cons_named hs name value line hn, hrest, keys, List.map_cons,
        ← (line.named_iff name).mp hn]
      rfl
    · rw [List.filter_cons_of_neg hn] at h
      rw [set_cons_other hs name value line (by simpa using hn)]
      exact congrArg (nameKey line.name :: ·) (ih h)

theorem keys_without (hs : Headers) (name : String) (h : hs.keys.count (nameKey name) = 0) :
    (hs.without name).keys = hs.keys := by
  rw [← length_filter_named, List.length_eq_zero_iff, List.filter_eq_nil_iff] at h
  rw [hs.without_eq_self name (by simpa using h)]

end Headers

/-- The lines that an edit of a header leaves of its name. -/
def Edit.lines : Edit → List Header
  | .setHeader name value => [⟨name, value⟩]
  | .addHeader name value => [⟨name, value⟩]
  | _ => []

/-- How often a name is to be in a list for an edit of it to leave the names as they are. -/
def Edit.Fits (keys : List (List Char)) : Edit → Prop
  | .setHeader name _ => keys.count (nameKey name) = 1
  | .addHeader name _ => keys.count (nameKey name) = 1
  | .removeHeader name => keys.count (nameKey name) = 0
  | _ => True

section

variable (policy : Policy) (es : List Edit)

theorem Edit.headers_foldl (p : Record) : (es.foldl (Edit.apply policy) p).headers =
    es.foldl (Edit.onHeaders policy) p.headers := by
  induction es generalizing p with
  | nil => rfl
  | cons e es ih => rw [List.foldl_cons, List.foldl_cons, ih, e.headers_apply]

variable {policy es} {e : Edit} (hset : e.Settles policy es)

include hset

theorem Edit.Settles.filter_named (name : String) (hn : e.target.isHeader name = true)
    (hs : Headers) : (e.onHeaders policy hs).filter (Header.named name) = e.lines := by
  cases e with
  | setHeader spelling value =>
    rw [Header.named_congr name spelling hn]
    exact hs.filter_set_named spelling value
  | addHeader spelling value =>
    obtain rfl : policy = .replaceExisting := hset
    rw [Header.named_congr name spelling hn]
    exact hs.filter_set_named spelling value
  | removeHeader spelling =>
    rw [Header.named_congr name spelling hn]
    exact hs.filter_without_named spelling
  | _ => cases hn

theorem Edit.Settles.agreesOn (hpart : e.target.part ≠ .headers) (p q : Record) :
    (e.apply policy p).AgreesOn e.target.part (e.apply policy q) := by
  cases e with
  | setHeader | addHeader | removeHeader => exact absurd rfl hpart
  | setUrl | setBody | removeBody | setMethod => rfl
  | replaceInUrl | regexInUrl | appendBody | replaceInBody | regexInBody => cases hset

theorem Edit.Settles.keys_onHeaders (hs : Headers) (hfits : e.Fits hs.keys) :
    (e.onHeaders policy hs).keys = hs.keys := by
  cases e with
  | setHeader name value => exact hs.keys_set name value hfits
  | addHeader name value =>
    obtain rfl : policy = .replaceExisting := hset
    exact hs.keys_set name value hfits
  | removeHeader name => exact hs.keys_without name hfits
  | _ => rfl

end

section

variable (policy : Policy) (es : List Edit) (hset : ∀ e ∈ es, e.Settles policy es)

include hset

/-- No edit is of a name, or one of them leaves its own lines whatever there was before. -/
theorem Edit.named_foldl_cases (name : String) :
    (∀ e ∈ es, e.target.isHeader name = false) ∨
    ∃ e ∈ es, e.target.isHeader name = true ∧ ∀ p : Record,
      (es.foldl (Edit.apply policy) p).headers.filter (Header.named name) = e.lines := by
  have hnamed := fun p => Edit.foldl_named es policy p name
  rcases List.eq_nil_or_concat (es.filter fun e => e.target.isHeader name) with
    hnil | ⟨init, e, hlast⟩
  · refine .inl fun e he => ?_
    simpa using List.filter_eq_nil_iff.mp hnil e he
  · have hmem : e ∈ es.filter fun e => e.target.isHeader name := by
      rw [hlast]
      simp
    obtain ⟨he, hn⟩ := List.mem_filter.mp hmem
    refine .inr ⟨e, he, hn, fun p => ?_⟩
    rw [hnamed, hlast, List.concat_eq_append, List.foldl_append, List.foldl_cons, List.foldl_nil,
      e.headers_apply]
    exact (hset e he).filter_named name hn _

theorem Edit.part_foldl_cases (part : Part) (hpart : part ≠ .headers) :
    (∀ p, (es.foldl (Edit.apply policy) p).AgreesOn part p) ∨
      ∀ p q, (es.foldl (Edit.apply policy) p).AgreesOn part (es.foldl (Edit.apply policy) q) := by
  have hagree := fun p => Edit.foldl_agreesOn es policy p part
  rcases List.eq_nil_or_concat (es.filter fun e => e.target.part == part) with
    hnil | ⟨init, e, hlast⟩
  · rw [hnil] at hagree
    exact .inl hagree
  · have hmem : e ∈ es.filter fun e => e.target.part == part := by
      rw [hlast]
      simp
    obtain ⟨he, hn⟩ := List.mem_filter.mp hmem
    obtain rfl : e.target.part = part := by simpa using hn
    refine .inr fun p q => (hagree p).trans ((?_ : Record.AgreesOn _ _ _).trans (hagree q).symm)
    rw [hlast, List.concat_eq_append, List.foldl_append, List.foldl_append]
    exact (hset e he).agreesOn hpart _ _

theorem Edit.fits_foldl (p : Record) :
    ∀ e ∈ es, e.Fits (es.foldl (Edit.apply policy) p).headers.keys := by
  -- A name that is put somewhere is not removed by its last edit, and the other way round.
  have hputs : ∀ name, (∃ e ∈ es, e.Puts ∧ e.target.isHeader name = true) →
      (es.foldl (Edit.apply policy) p).headers.keys.count (nameKey name) = 1 := by
    rintro name ⟨d, hd, hdputs, hdname⟩
    rw [← Headers.length_filter_named]
    rcases Edit.named_foldl_cases policy es hset name with hnone | ⟨e, he, hname, hlines⟩
    · rw [hnone d hd] at hdname
      cases hdname
    · rw [hlines]
      have hsettles := hset e he
      cases e with
      | setHeader | addHeader => rfl
      | removeHeader spelling =>
        rw [d.target.isHeader_congr name spelling hname, hsettles d hd hdputs] at hdname
        cases hdname
      | _ => cases hname
  intro d hd
  have hself : ∀ name, (Target.header name).isHeader name = true := sameIgnoringCase_self
  cases d with
  | setHeader name value => exact hputs name ⟨_, hd, .inl rfl, hself name⟩
  | addHeader name value => exact hputs name ⟨_, hd, .inr rfl, hself name⟩
  | removeHeader name =>
    change List.count (nameKey name) _ = 0
    rw [← Headers.length_filter_named]
    rcases Edit.named_foldl_cases policy es hset name with hnone | ⟨e, he, hname, hlines⟩
    · have hn := hnone _ hd
      rw [show (Edit.removeHeader name).target = .header name from rfl, hself] at hn
      cases hn
    · rw [hlines]
      have hnot : e.Puts → e.target.isHeader name = false := hset _ hd e he
      rw [hname] at hnot
      cases e with
      | removeHeader => rfl
      | setHeader => cases hnot (.inl rfl)
      | addHeader => cases hnot (.inr rfl)
      | _ => cases hname
  | _ => trivial

theorem Edit.keys_foldl (hs : Headers) (hfits : ∀ e ∈ es, e.Fits hs.keys) (done : List Edit)
    (hdone : ∀ e ∈ done, e ∈ es) : (done.foldl (Edit.onHeaders policy) hs).keys = hs.keys := by
  induction done generalizing hs with
  | nil => rfl
  | cons e done ih =>
    obtain ⟨he, hrest⟩ := List.forall_mem_cons.mp hdone
    have hkeys := (hset e he).keys_onHeaders hs (hfits e he)
    rw [List.foldl_cons, ih _ (by rwa [hkeys]) hrest, hkeys]

/-- **Edits that settle a record leave it alone the second time.** -/
theorem Edit.foldl_settled (p : Record) :
    es.foldl (Edit.apply policy) (es.foldl (Edit.apply policy) p) =
      es.foldl (Edit.apply policy) p := by
  refine Record.eq_of_agreesOn _ _ (Edit.foldl_sameRest es policy _) fun part => ?_
  by_cases hpart : part = .headers
  · obtain rfl := hpart
    apply Headers.eq_of_keys
    · rw [Edit.headers_foldl]
      exact Edit.keys_foldl policy es hset _ (Edit.fits_foldl policy es hset p) es fun _ he => he
    · intro name
      rcases Edit.named_foldl_cases policy es hset name with hnone | ⟨e, -, -, hlines⟩
      · apply Edit.foldl_untouched
        intro e he header hheader
        exact e.target.named_other name (hnone e he) header hheader
      · rw [hlines, hlines]
  · rcases Edit.part_foldl_cases policy es hset part hpart with hkept | hsame
    · exact hkept _
    · exact hsame _ _

end

end PacketReplay
