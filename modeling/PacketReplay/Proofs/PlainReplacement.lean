import PacketReplay.Proofs.PlainSearch
import PacketReplay.Proofs.RuleList

set_option autoImplicit false

namespace PacketReplay

open Pattern

namespace Regex

theorem findBytes_cases (needle : Bytes) (hne : needle ≠ []) (i : Nat) (xs : Bytes) :
    (findBytes needle i xs = none ∧ ¬ needle <:+: xs) ∨
    ∃ gap rest, findBytes needle i xs = some (i + gap.length) ∧ xs = gap ++ (needle ++ rest) ∧
      OnlyAtEnd needle gap := by
  induction xs generalizing i with
  | nil =>
    refine .inl ⟨?_, fun h => hne (List.infix_nil.mp h)⟩
    rw [findBytes, if_neg (by simpa using hne)]
  | cons b xs ih =>
    by_cases hstart : needle <+: b :: xs
    · obtain ⟨rest, hrest⟩ := hstart
      exact .inr ⟨[], rest, findBytes_of_front needle hne i _ ⟨rest, hrest⟩, hrest.symm,
        onlyAtEnd_nil needle⟩
    · rw [findBytes_of_ahead needle hne i _ hstart, List.tail_cons]
      rcases ih (i + 1) with ⟨hnone, hnowhere⟩ | ⟨gap, rest, hsome, rfl, hgap⟩
      · refine .inl ⟨hnone, ?_⟩
        rw [List.infix_cons_iff]
        exact not_or.mpr ⟨hstart, hnowhere⟩
      · refine .inr ⟨b :: gap, rest, ?_, rfl, hgap.cons needle b gap rest hstart⟩
        rw [hsome, List.length_cons, Nat.add_assoc, Nat.add_comm 1]

section

variable (r : Regex) (needle : Bytes) (hne : needle ≠ []) (hr : literal? r.tree = some needle)
  (h : Bytes)

theorem extract_toList (i j : Nat) : (h.toArray.extract i j).toList = (h.drop i).take (j - i) := by
  simp

theorem extract_rest (i : Nat) : (h.toArray.extract i h.toArray.size).toList = h.drop i := by
  rw [extract_toList, List.size_toArray, ← List.length_drop, List.take_length]

theorem expand_bytes (m : Match) (value : Bytes) :
    r.expand h.toArray m (value.map .byte) = value := by
  rw [expand, List.flatMap_map]
  exact List.flatMap_singleton' value

include hr

theorem find_literal (i : Nat) :
    r.find h.toArray i = (findBytes needle i (h.drop i)).map fun start =>
      ⟨start, start + needle.length, []⟩ := by
  rw [find, hr]
  simp only [extract_rest]

include hne

/-- No match is empty, so the next one is the first that starts where the last one ended. -/
theorem next_literal (last : Option Nat) :
    r.next h.toArray last = r.find h.toArray (last.getD 0) := by
  have hlength : 0 < needle.length := List.length_pos_iff.mpr hne
  cases last with
  | none => rfl
  | some i =>
    rw [next, Option.getD_some, r.find_literal needle hr h]
    cases findBytes needle i (h.drop i) with
    | none => rfl
    | some start =>
      simp only [Option.map_some]
      rw [if_neg (by omega)]

theorem replaceFrom_literal (value : Bytes) (fuel : Nat) (last : Option Nat)
    (hfuel : h.length - last.getD 0 < fuel) :
    r.replaceFrom h.toArray (value.map .byte) fuel last =
      PacketReplay.replaceAll needle value (h.drop (last.getD 0)) := by
  induction fuel generalizing last with
  | zero => exact absurd hfuel (Nat.not_lt_zero _)
  | succ fuel ih =>
    have hlength : 0 < needle.length := List.length_pos_iff.mpr hne
    rw [replaceFrom, r.next_literal needle hne hr h, r.find_literal needle hr h]
    generalize last.getD 0 = i at hfuel ⊢
    rcases findBytes_cases needle hne i (h.drop i) with
      ⟨hnone, hnowhere⟩ | ⟨gap, rest, hsome, hsplit, hgap⟩
    · rw [hnone, replaceAll_of_not_infix needle value _ hnowhere]
      exact extract_rest h i
    · have htotal := congrArg List.length hsplit
      simp only [List.length_drop, List.length_append] at htotal
      have hbefore : (h.toArray.extract i (i + gap.length)).toList = gap := by
        rw [extract_toList, hsplit, Nat.add_sub_cancel_left, List.take_left]
      have hafter : h.drop (i + gap.length + needle.length) = rest := by
        rw [← List.drop_drop, ← List.drop_drop, hsplit, List.drop_left, List.drop_left]
      have hrest := ih (some (i + gap.length + needle.length)) (by
        rw [Option.getD_some]
        omega)
      rw [Option.getD_some, hafter] at hrest
      rw [hsome, hsplit, hgap.replaceAll_append needle value hne, ← List.append_assoc]
      simp only [Option.map_some, hbefore, r.expand_bytes, hrest]

end

theorem replaceAll_literal (r : Regex) (needle : Bytes) (hne : needle ≠ [])
    (hr : literal? r.tree = some needle) (value : Bytes) (hvalue : template value = value.map .byte)
    (h : Bytes) : r.replaceAll value h = PacketReplay.replaceAll needle value h := by
  rw [replaceAll, hvalue]
  exact r.replaceFrom_literal needle hne hr h value _ none (Nat.lt_succ_self _)

end Regex

theorem template_of_not_mem (value : Bytes) (h : 36 ∉ value) :
    template value = value.map .byte := by
  unfold template
  induction value with
  | nil => rfl
  | cons b rest ih =>
    rw [List.mem_cons, not_or] at h
    rw [templateFrom, if_neg (Ne.symm h.1), ih h.2]
    · rfl
    · rintro tail rfl
      exact h.2 List.mem_cons_self

theorem dollar_not_mem (value : String) (h : '$' ∉ value.toList) : 36 ∉ textBytes value := by
  intro hmem
  obtain ⟨before, after, hsplit⟩ := List.append_of_mem hmem
  have hdollar : textBytes "$" = [36] := by decide +kernel
  obtain ⟨front, back, rfl, -, -⟩ := textBytes_between value "$" (by decide) before after (by
    rw [hsplit, hdollar, List.append_assoc]
    rfl)
  exact h (by simp)

structure Rule.RegexReplaces (r : Rule) (target : Target) (pattern value : String) : Prop where
  operation : Operation.parse r.operation = some .regexReplace
  target : Target.parse r.target = some target
  pattern : r.pattern = some pattern
  value : r.value = some value

namespace Rule.RegexReplaces

variable {r : Rule} {target : Target} {pattern value : String}

theorem needRegex (h : r.RegexReplaces target pattern value) (hp : Plain pattern) (op : Operation)
    (subject : Subject) :
    r.needRegex op subject =
      if Fits pattern then .ok (.plain subject pattern) else .error .badPattern := by
  have hpattern : r.needPattern op = .ok pattern := by
    rw [needPattern, h.pattern]
    exact if_neg hp.nonempty
  rw [Rule.needRegex, hpattern]
  simp only [bind, Except.bind, Regex.compile_plain subject pattern hp]
  by_cases hfits : Fits pattern
  · rw [if_pos hfits, if_pos hfits]
  · rw [if_neg hfits, if_neg hfits]

theorem compile_url (h : r.RegexReplaces .url pattern value) (hp : Plain pattern) :
    r.compile =
      if Fits pattern then .ok (.regexInUrl (.plain .text pattern) value)
      else .error .badPattern := by
  rw [Rule.compile, h.operation, h.target]
  simp only [urlEdit, h.needRegex hp, needValue, h.value]
  split <;> rfl

theorem compile_body (h : r.RegexReplaces .body pattern value) (hp : Plain pattern) :
    r.compile =
      if Fits pattern then .ok (.regexInBody (.plain .bytes pattern) (textBytes value))
      else .error .badPattern := by
  rw [Rule.compile, h.operation, h.target]
  simp only [bodyEdit, h.needRegex hp, needValue, h.value]
  split <;> rfl

end Rule.RegexReplaces

section

variable (pattern value : String) (hp : Plain pattern) (hvalue : '$' ∉ value.toList)

include hp hvalue

theorem regex_replaceAll_plain (subject : Subject) (b : Bytes) :
    (Regex.plain subject pattern).replaceAll (textBytes value) b =
      replaceAll (textBytes pattern) (textBytes value) b :=
  Regex.replaceAll_literal _ _ (textBytes_ne_nil pattern hp.nonempty)
    (Regex.literal?_plain subject pattern hp) _
    (template_of_not_mem _ (dollar_not_mem value hvalue)) b

theorem apply_regexInUrl_plain (policy : Policy) (p : Record) :
    Edit.apply policy p (.regexInUrl (.plain .text pattern) value) =
      Edit.apply policy p (.replaceInUrl pattern value) := by
  have htext : regexReplaceText (.plain .text pattern) value p.url =
      replaceText pattern value p.url := by
    rw [regexReplaceText, regex_replaceAll_plain pattern value hp hvalue,
      replaceAll_textBytes p.url pattern value hp.nonempty, bytesText?_textBytes, Option.getD_some]
  rw [Edit.apply, Edit.apply, htext]

theorem apply_regexInBody_plain (policy : Policy) (p : Record) :
    Edit.apply policy p (.regexInBody (.plain .bytes pattern) (textBytes value)) =
      Edit.apply policy p (.replaceInBody (textBytes pattern) (textBytes value)) := by
  have hbody : (Regex.plain .bytes pattern).replaceAll (textBytes value) =
      replaceAll (textBytes pattern) (textBytes value) :=
    funext (regex_replaceAll_plain pattern value hp hvalue .bytes)
  rw [Edit.apply, Edit.apply, hbody]

end

theorem Regex.find_plain (subject : Subject) (pattern : String) (hp : Plain pattern)
    (h : Array UInt8) (i : Nat) :
    (plain subject pattern).program.find subject h i = (plain subject pattern).find h i := by
  have hrest : (h.extract i h.size).toList = h.toList.drop i := by
    rw [← Array.length_toList]
    exact extract_rest h.toList i
  have hlength : (textBytes pattern).length = pattern.toList.length := by
    rw [textBytes_eq, charsBytes_plain _ hp.chars, List.length_map]
  rw [find, literal?_plain subject pattern hp]
  simp only [hrest, hlength]
  rw [textBytes_eq]
  exact find_chainProgram _ hp.toList_ne_nil hp.chars subject h i

theorem applyRules_replace (before after : List Rule) (r r' : Rule) (e e' : Edit)
    (hr : r.compile = .ok e) (hr' : r'.compile = .ok e') (policy : Policy)
    (h : ∀ p, e.apply policy p = e'.apply policy p) (p : Record) :
    applyRules p (before ++ r :: after) policy = applyRules p (before ++ r' :: after) policy := by
  have hsame (q : Record) :
      applyRules q (r :: after) policy = applyRules q (r' :: after) policy := by
    change applyRules q ([r] ++ after) policy = applyRules q ([r'] ++ after) policy
    rw [applyRules_append, applyRules_append, applyRules_singleton q policy r e hr,
      applyRules_singleton q policy r' e' hr', h q]
    rfl
  rw [applyRules_append, applyRules_append]
  simp only [hsame]

/-- The most characters of a plain pattern for which there is room. -/
theorem fits_iff (pattern : String) : Fits pattern ↔ pattern.length ≤ 327673 := by
  have hframe : frameSize false = 208 := rfl
  unfold Fits stateSize sizeLimit
  omega

section

variable (pattern : String) (r r' : Rule) (e e' : Edit) (policy : Policy)
  (hr : r.compile = if Fits pattern then .ok e else .error .badPattern)
  (hr' : r'.compile = .ok e')

include hr

theorem compiles_iff : (∃ f, r.compile = .ok f) ↔ pattern.length ≤ 327673 := by
  rw [← fits_iff]
  constructor
  · rintro ⟨f, hf⟩
    by_contra hlong
    rw [hr, if_neg hlong] at hf
    cases hf
  · exact fun hfits => ⟨e, by rw [hr, if_pos hfits]⟩

theorem eq_of_compiles (f : Edit) (hf : r.compile = .ok f) : f = e := by
  have hfits := (fits_iff pattern).mpr ((compiles_iff pattern r e hr).mp ⟨f, hf⟩)
  rw [hr, if_pos hfits] at hf
  exact (Except.ok.inj hf).symm

theorem refused_of_long (hlong : ¬ pattern.length ≤ 327673) (p : Record) :
    applyRules p [r] policy = .error (.invalidRule 0 .badPattern) := by
  rw [if_neg (mt (fits_iff pattern).mp hlong)] at hr
  exact (applyRules_singleton_error_iff p policy r _).mpr ⟨_, hr, rfl⟩

include hr'

theorem applyRules_alike (h : ∀ p, e.apply policy p = e'.apply policy p)
    (hf : ∃ f, r.compile = .ok f) :
    (∀ before after p,
      applyRules p (before ++ r :: after) policy = applyRules p (before ++ r' :: after) policy) ∧
    ∀ p, applyRules p [r] policy = .ok (e'.apply policy p) := by
  obtain ⟨f, hf⟩ := hf
  obtain rfl := eq_of_compiles pattern r e hr f hf
  refine ⟨fun before after p => ?_, fun p => ?_⟩
  · exact applyRules_replace before after r r' f e' hf hr' policy h p
  · rw [applyRules_singleton p policy r f hf, h p]

end

/-- **Plain patterns replace alike.** Let one rule replace what a pattern matches and another the
pattern itself, in the URL or in the body, where the pattern is of letters, digits and underscores
and the value has no dollar sign. Whenever the one rule is accepted, it may stand for the other in
any list of rules, and a record becomes the one in which every leftmost occurrence of the pattern is
replaced; it makes no difference whether a search runs the program of the pattern or looks for its
bytes. It is accepted unless the pattern is too long; such a pattern is refused by the one rule and
replaced by the other. -/
theorem plain_patterns_replace_alike (target : Target) (pattern value : String)
    (htarget : target = .url ∨ target = .body) (hpattern : Plain pattern)
    (hvalue : '$' ∉ value.toList) (regex literal : Rule)
    (hregex : regex.RegexReplaces target pattern value)
    (hliteral : literal.Replaces target pattern value) (policy : Policy) :
    ((∃ edit, regex.compile = .ok edit) →
      (∀ before after p, applyRules p (before ++ regex :: after) policy =
        applyRules p (before ++ literal :: after) policy) ∧
      (∀ p, ∃ q, applyRules p [regex] policy = .ok q ∧ applyRules p [literal] policy = .ok q ∧
        (target = .url → q = { p with url := replaceText pattern value p.url }) ∧
        (target = .body →
          q = { p with body := p.body.map (replaceAll (textBytes pattern) (textBytes value)) } ∧
          ∀ s, p.body = some (textBytes s) →
            q.body = some (textBytes (replaceText pattern value s)))) ∧
      ∀ subject h i, (Regex.plain subject pattern).program.find subject h i =
        (Regex.plain subject pattern).find h i) ∧
    ((∃ edit, regex.compile = .ok edit) ↔ pattern.length ≤ 327673) ∧
    (¬ pattern.length ≤ 327673 → ∀ p,
      applyRules p [regex] policy = .error (.invalidRule 0 .badPattern) ∧
      ∃ q, applyRules p [literal] policy = .ok q) := by
  have hfind := fun subject h i => Regex.find_plain subject pattern hpattern h i
  rcases htarget with rfl | rfl
  · have hedit := hliteral.compile_url literal pattern value hpattern.nonempty
    have hdone := fun p => applyRules_singleton p policy literal _ hedit
    have hcompile := hregex.compile_url hpattern
    refine ⟨fun hf => ?_, compiles_iff pattern regex _ hcompile,
      fun hlong p => ⟨refused_of_long pattern regex _ policy hcompile hlong p, _, hdone p⟩⟩
    obtain ⟨hplaced, halone⟩ := applyRules_alike pattern regex literal _ _ policy hcompile hedit
      (apply_regexInUrl_plain pattern value hpattern hvalue policy) hf
    exact ⟨hplaced, fun p => ⟨_, halone p, hdone p, fun _ => rfl, nofun⟩, hfind⟩
  · have hedit := hliteral.compile_body literal pattern value hpattern.nonempty
    have hdone := fun p => applyRules_singleton p policy literal _ hedit
    have hcompile := hregex.compile_body hpattern
    refine ⟨fun hf => ?_, compiles_iff pattern regex _ hcompile,
      fun hlong p => ⟨refused_of_long pattern regex _ policy hcompile hlong p, _, hdone p⟩⟩
    obtain ⟨hplaced, halone⟩ := applyRules_alike pattern regex literal _ _ policy hcompile hedit
      (apply_regexInBody_plain pattern value hpattern hvalue policy) hf
    refine ⟨hplaced, fun p => ⟨_, halone p, hdone p, nofun, fun _ => ⟨rfl, ?_⟩⟩, hfind⟩
    intro s hs
    change p.body.map _ = _
    rw [hs, Option.map_some, replaceAll_textBytes s pattern value hpattern.nonempty]

/-- Occurrences that overlap and touch, in the URL and in the body. -/
theorem plain_patterns_replace_alike_overlapping :
    let regex : Rule := ⟨"url", "regex_replace", some "b", some "aa"⟩
    let literal : Rule := ⟨"URL", "replace", some "b", some "aa"⟩
    let p := { Record.repeating with url := "/aaaaaé" }
    (∃ edit, regex.compile = .ok edit) ∧
      applyRules p [regex] .replaceExisting = .ok { p with url := "/bbaé" } ∧
      applyRules p [literal, regex] .replaceExisting =
        applyRules p [literal, literal] .replaceExisting := by
  intro regex literal p
  have hpattern : Plain "aa" := ⟨by decide, List.all_eq_true.mp (by decide +kernel)⟩
  have hregex : regex.RegexReplaces .url "aa" "b" :=
    ⟨by decide +kernel, by decide +kernel, rfl, rfl⟩
  have hliteral : literal.Replaces .url "aa" "b" := ⟨by decide +kernel, by decide +kernel, rfl, rfl⟩
  obtain ⟨halike, hcompiles, -⟩ := plain_patterns_replace_alike .url "aa" "b" (.inl rfl) hpattern
    (by decide +kernel) regex literal hregex hliteral .replaceExisting
  have hedit := hcompiles.mpr (by decide +kernel)
  obtain ⟨hplaced, halone, -⟩ := halike hedit
  obtain ⟨q, hq, -, hurl, -⟩ := halone p
  have htext : replaceText "aa" "b" p.url = "/bbaé" := by decide +kernel
  rw [hurl rfl, htext] at hq
  exact ⟨hedit, hq, hplaced [literal] [] p⟩

theorem plain_replicate (n : Nat) (hn : n ≠ 0) : Plain (String.ofList (List.replicate n 'a')) where
  nonempty := by
    rw [ne_eq, ← String.toList_eq_nil_iff, String.toList_ofList, List.replicate_eq_nil_iff]
    exact hn
  chars := by
    intro c hc
    rw [String.toList_ofList] at hc
    rw [List.eq_of_mem_replicate hc]
    decide

theorem replaceText_of_length_lt (pattern value text : String) (h : text.length < pattern.length) :
    replaceText pattern value text = text := by
  rw [replaceText, replaceAll_of_not_infix, String.ofList_toList]
  intro hinfix
  have hle := hinfix.length_le
  rw [String.length_toList, String.length_toList] at hle
  omega

/-- A pattern that is too long is refused as a regular expression and looked for as a text. -/
theorem long_pattern_not_alike :
    let pattern := String.ofList (List.replicate 400000 'a')
    let regex : Rule := ⟨"url", "regex_replace", some "b", some pattern⟩
    let literal : Rule := ⟨"url", "replace", some "b", some pattern⟩
    let p := { Record.repeating with url := "/x" }
    Plain pattern ∧ '$' ∉ "b".toList ∧
      applyRules p [regex] .replaceExisting = .error (.invalidRule 0 .badPattern) ∧
      applyRules p [literal] .replaceExisting = .ok p := by
  intro pattern regex literal p
  have hpattern : Plain pattern := plain_replicate 400000 (by decide)
  have hlength : pattern.length = 400000 := by
    rw [String.length_ofList, List.length_replicate]
  have hlong : ¬ Fits pattern := by
    rw [fits_iff, hlength]
    decide
  have hregex : regex.RegexReplaces .url pattern "b" :=
    ⟨by decide +kernel, by decide +kernel, rfl, rfl⟩
  have hliteral : literal.Replaces .url pattern "b" :=
    ⟨by decide +kernel, by decide +kernel, rfl, rfl⟩
  have hrefused := hregex.compile_url hpattern
  rw [if_neg hlong] at hrefused
  have hedit := hliteral.compile_url literal pattern "b" hpattern.nonempty
  have hsame : Edit.apply .replaceExisting p (.replaceInUrl pattern "b") = p := by
    rw [Edit.apply, replaceText_of_length_lt pattern "b" p.url (by rw [hlength]; decide)]
  refine ⟨hpattern, by decide +kernel, ?_, ?_⟩
  · exact (applyRules_singleton_error_iff p _ regex _).mpr ⟨_, hrefused, rfl⟩
  · rw [applyRules_singleton p _ literal _ hedit, hsame]

end PacketReplay
