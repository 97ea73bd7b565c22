import PacketReplay.Http.Client
import PacketReplay.Proofs.HeaderOutcome

set_option autoImplicit false

namespace PacketReplay

structure Rule.Brings (r : Rule) (line : Header) : Prop where
  operation : Operation.parse r.operation = some .set ∨ Operation.parse r.operation = some .add
  name : ∃ kind rest, trim r.target = kind ++ ":" ++ rest ∧ ':' ∉ kind.toList ∧
    sameIgnoringCase kind "header" = true ∧ line.name = trim rest
  value : r.value = some line.value

/-- A line whose name and value stay within one line of a request. -/
structure Header.Clean (line : Header) : Prop where
  name_ne : line.name ≠ ""
  name : ∀ b ∈ textBytes line.name, isTokenByte b = true
  value : ∀ b ∈ textBytes line.value, b ≠ 127 ∧ (b < 32 → b = 9)

def Header.isRecomputed (line : Header) : Bool :=
  recomputedHeaders.any fun name => line.named name

theorem splitColon_eq_some_iff (cs a b : List Char) :
    splitColon cs = some (a, b) ↔ ':' ∉ a ∧ cs = a ++ ':' :: b := by
  induction cs generalizing a with
  | nil => simp [splitColon]
  | cons c cs ih =>
    by_cases hc : c = ':'
    · subst hc
      cases a with
      | nil => simp [splitColon]
      | cons d a =>
        simp only [splitColon, Option.some.injEq, Prod.mk.injEq, reduceCtorEq, false_and,
          List.nil_eq, false_iff, not_and]
        rintro hnot ⟨⟩
        exact hnot List.mem_cons_self
    · rw [splitColon.eq_3 c cs hc, Option.map_eq_some_iff]
      cases a with
      | nil => simp [hc]
      | cons d a =>
        constructor
        · rintro ⟨split, hsplit, heq⟩
          cases heq
          obtain ⟨hnot, hcs⟩ := (ih split.1).mp hsplit
          refine ⟨fun hmem => ?_, by rw [hcs]; rfl⟩
          rcases List.mem_cons.mp hmem with heq | hmem
          · exact hc heq.symm
          · exact hnot hmem
        · rintro ⟨hnot, heq⟩
          cases heq
          exact ⟨(a, b), (ih a).mpr ⟨fun h => hnot (List.mem_cons_of_mem _ h), rfl⟩, rfl⟩

theorem splitColon_toList (text kind rest : String) :
    splitColon text.toList = some (kind.toList, rest.toList) ↔
      text = kind ++ ":" ++ rest ∧ ':' ∉ kind.toList := by
  rw [splitColon_eq_some_iff, and_comm, ← String.toList_inj, String.toList_append,
    String.toList_append, List.append_assoc]
  rfl

theorem Target.parse_eq_header_iff (text name : String) :
    Target.parse text = some (.header name) ↔
      ∃ kind rest, trim text = kind ++ ":" ++ rest ∧ ':' ∉ kind.toList ∧
        sameIgnoringCase kind "header" = true ∧ name = trim rest := by
  constructor
  · intro h
    rw [parse] at h
    split at h
    · rename_i kind rest hsplit
      split at h
      · rename_i hkind
        cases h
        have htext := (splitColon_toList (trim text) (.ofList kind) (.ofList rest)).mp (by
          rw [hsplit, String.toList_ofList, String.toList_ofList])
        refine ⟨.ofList kind, .ofList rest, htext.1, htext.2, hkind, ?_⟩
        rw [trim, String.toList_ofList]
      · split at h <;> cases h
    · split at h <;> cases h
  · rintro ⟨kind, rest, htext, hcolon, hkind, rfl⟩
    rw [parse, (splitColon_toList (trim text) kind rest).mpr ⟨htext, hcolon⟩]
    change (if sameIgnoringCase (.ofList kind.toList) "header" = true then _ else _) = _
    rw [String.ofList_toList, if_pos hkind]
    rfl

theorem Header.clean_of_fit (line : Header) (hname : isHeaderName line.name = true)
    (hvalue : isHeaderValue line.value = true) : line.Clean := by
  rw [isHeaderName, Bool.and_eq_true, Bool.and_eq_true, List.all_eq_true] at hname
  rw [isHeaderValue, List.all_eq_true] at hvalue
  refine ⟨?_, hname.2, ?_⟩
  · intro hempty
    rw [hempty] at hname
    exact absurd hname.1.1 (by decide +kernel)
  · intro b hb
    have hfit := hvalue b hb
    rw [isValueByte, Bool.or_eq_true, Bool.and_eq_true, beq_iff_eq, decide_eq_true_eq,
      bne_iff_ne] at hfit
    rcases hfit with rfl | ⟨hlow, hne⟩
    · exact ⟨by decide, fun _ => rfl⟩
    · exact ⟨hne, fun hlt => absurd hlow (UInt8.not_le.mpr hlt)⟩

def Edit.line? : Edit → Option Header
  | .setHeader name value => some ⟨name, value⟩
  | .addHeader name value => some ⟨name, value⟩
  | _ => none

theorem Edit.mem_headers_apply (policy : Policy) (e : Edit) (p : Record) (line : Header)
    (h : line ∈ (e.apply policy p).headers) : line ∈ p.headers ∨ e.line? = some line := by
  rw [Edit.headers_apply] at h
  cases e with
  | setHeader name value =>
    exact (p.headers.mem_set name value line h).imp_right fun heq => congrArg some heq.symm
  | addHeader name value =>
    cases policy with
    | allowDuplicates =>
      exact (List.mem_append.mp h).imp_right fun hmem =>
        congrArg some (List.mem_singleton.mp hmem).symm
    | replaceExisting =>
      exact (p.headers.mem_set name value line h).imp_right fun heq => congrArg some heq.symm
  | removeHeader name => exact .inl (List.mem_filter.mp h).1
  | _ => exact .inl h

theorem Edit.mem_headers_foldl (policy : Policy) (es : List Edit) (p : Record) (line : Header)
    (h : line ∈ (es.foldl (Edit.apply policy) p).headers) :
    line ∈ p.headers ∨ ∃ e ∈ es, e.line? = some line := by
  induction es generalizing p with
  | nil => exact .inl h
  | cons e es ih =>
    rcases ih (e.apply policy p) h with hbefore | ⟨e', he', hline⟩
    · exact (e.mem_headers_apply policy p line hbefore).imp_right
        fun hline => ⟨e, List.mem_cons_self, hline⟩
    · exact .inr ⟨e', List.mem_cons_of_mem _ he', hline⟩

section

variable (r : Rule) (e : Edit) (line : Header) (h : r.compile = .ok e)

include h

theorem Rule.brings_of_line (hline : e.line? = some line) : r.Brings line := by
  have ht := r.parse_target_of_compile e h
  cases e with
  | setHeader name value =>
    cases hline
    cases (r.onHeader_of_compile _ name h ht).2 with
    | set _ hop hvalue => exact ⟨.inl hop, (Target.parse_eq_header_iff _ name).mp ht, hvalue⟩
  | addHeader name value =>
    cases hline
    cases (r.onHeader_of_compile _ name h ht).2 with
    | add _ hop hvalue => exact ⟨.inr hop, (Target.parse_eq_header_iff _ name).mp ht, hvalue⟩
  | _ => cases hline

theorem Rule.Brings.fit (hb : r.Brings line) :
    isHeaderName line.name = true ∧ isHeaderValue line.value = true := by
  obtain ⟨hname, hon⟩ := r.onHeader_of_compile e line.name h
    ((Target.parse_eq_header_iff _ _).mpr hb.name)
  refine ⟨hname, ?_⟩
  cases hon with
  | set value _ hvalue hfit | add value _ hvalue hfit =>
    rw [hb.value] at hvalue
    cases hvalue
    exact hfit
  | remove hop =>
    rcases hb.operation with hop' | hop' <;> rw [hop] at hop' <;> cases hop'

end

theorem forwardedHeaders_eq (hs : Headers) :
    forwardedHeaders hs = hs.filter fun line => !line.isRecomputed := rfl

theorem count_forwardedHeaders (hs : Headers) (line : Header) :
    (forwardedHeaders hs).count line = if line.isRecomputed = true then 0 else hs.count line := by
  rw [forwardedHeaders_eq]
  by_cases hr : line.isRecomputed = true
  · rw [if_pos hr, List.count_eq_zero]
    intro hmem
    simpa [hr] using (List.mem_filter.mp hmem).2
  · rw [if_neg hr, List.count_filter (by simpa using hr)]

theorem count_le_sentHeaders (hs : Headers) (line : Header) (hsend : line.isSendable = true)
    (hr : line.isRecomputed = false) :
    hs.count line ≤ (sentHeaders hs).count ⟨line.name.toLower, line.value⟩ := by
  have hcount : ((forwardedHeaders hs).filter Header.isSendable).count line = hs.count line := by
    rw [List.count_filter hsend, count_forwardedHeaders, hr, if_neg (by decide)]
  rw [← hcount]
  exact List.count_le_count_map (f := fun h : Header => (⟨h.name.toLower, h.value⟩ : Header))

theorem sentHeaders_sublist (r : OutboundRequest) (u : Url) (credentials : Headers) :
    (sentHeaders r.headers).Sublist (Hop.first r u credentials).request.headers := by
  have hsent : (sentHeaders r.headers).Sublist (credentials ++ sentHeaders r.headers) :=
    List.sublist_append_right _ _
  have hadd : ∀ (hs : Headers) name value, hs.Sublist (hs.add name value) :=
    fun hs name value => List.sublist_append_left hs _
  have hfirst : (sentHeaders r.headers).Sublist (Hop.first r u credentials).headers := by
    unfold Hop.first
    dsimp only
    split
    · exact hsent
    · exact hsent.trans (hadd _ _ _)
  have hhost := hfirst.trans (hadd _ "host" (Hop.first r u credentials).authority)
  unfold Hop.request
  dsimp only
  split
  · exact hhost
  · exact hhost.trans (hadd _ _ _)

/-- Every server that a request reaches sees it before anything that its response leads to. -/
theorem follow_received (server : Option HttpServer) (url : String) (fuel followed : Nat) (h : Hop)
    (received : List HttpRequest) :
    ∃ rest, (follow server url fuel followed h received).received = received.reverse ++ rest ∧
      rest.head? = (server.filter h.reaches).map fun _ => h.request := by
  fun_induction follow server url fuel followed h received with
  | case1 followed fuel h received hnone => exact ⟨[], (List.append_nil _).symm, by rw [hnone]; rfl⟩
  | case4 followed h received s hs now _ _ _ _ fuel next _ ih =>
    obtain ⟨rest, hrest, -⟩ := ih
    refine ⟨h.request :: rest, ?_, by rw [hs]; rfl⟩
    rw [hrest, List.reverse_cons, List.append_assoc, List.singleton_append]
  | case2 | case3 | case5 | case6 | case7 =>
    exact ⟨[_], List.reverse_cons, by simp only [*, Option.map_some, List.head?_cons]⟩

theorem OutboundRequest.head_received (r : OutboundRequest) (server : Option HttpServer) (u : Url)
    (hu : r.resolvedUrl = .ok u) :
    let h := Hop.first r (splitCredentials u).1 (splitCredentials u).2
    (r.send server).received.head? =
      if isRequestable (splitCredentials u).1 then (server.filter h.reaches).map fun _ => h.request
      else none := by
  intro h
  rw [send, hu]
  dsimp only
  split
  · obtain ⟨rest, hrest, hhead⟩ := follow_received server (splitCredentials u).1.write
      (maxRedirects + 1) 0 h []
    rw [← hhead]
    exact congrArg List.head? hrest
  · rfl

theorem OutboundRequest.first_received (r : OutboundRequest) (server : Option HttpServer)
    (first : HttpRequest) (h : (r.send server).received.head? = some first) :
    ∃ u credentials, first = (Hop.first r u credentials).request := by
  cases hu : r.resolvedUrl with
  | error fault =>
    rw [send, hu] at h
    cases h
  | ok u =>
    rw [r.head_received server u hu] at h
    split at h
    · obtain ⟨s, -, hs⟩ := Option.map_eq_some_iff.mp h
      exact ⟨_, _, hs.symm⟩
    · cases h

/-- **Rules bring headers that are sent as they are.** Every header of an edited request is one of the
source's or has the trimmed name and the value of a rule. What an accepted rule brings has a name of
token characters and a value without control characters but tabs, and passes the checks made before
sending. Unless such a header is made anew for every request, the server that the request is first
sent to sees it as often as it stands in the request. What is passed on are all headers that are not
made anew, in their order and as often as they occur. -/
theorem rules_bring_sent_headers (p q : Record) (policy : Policy) (rs : List Rule)
    (h : applyRules p rs policy = .ok q) :
    (∀ line ∈ (OutboundRequest.ofRecord q).headers,
      line ∈ p.headers ∨ ∃ r ∈ rs, r.Brings line) ∧
    (∀ line, (∃ r ∈ rs, r.Brings line) →
      line.Clean ∧ line.isSendable = true ∧
      (line.isRecomputed = false → ∀ server first,
        ((OutboundRequest.ofRecord q).send server).received.head? = some first →
        (OutboundRequest.ofRecord q).headers.count line ≤
          first.headers.count ⟨line.name.toLower, line.value⟩)) ∧
    ∀ hs : Headers, (forwardedHeaders hs).Sublist hs ∧ ∀ line,
      (forwardedHeaders hs).count line =
        if line.isRecomputed = true then 0 else hs.count line := by
  obtain ⟨es, hes, rfl⟩ := (applyRules_ok_iff p policy rs q).mp h
  refine ⟨?_, ?_, fun hs => ⟨List.filter_sublist, count_forwardedHeaders hs⟩⟩
  · intro line hline
    refine (Edit.mem_headers_foldl policy es p line hline).imp_right ?_
    rintro ⟨e, he, hwrites⟩
    obtain ⟨r, hr, hc⟩ := compileFrom_mem 0 rs es hes e he
    exact ⟨r, hr, r.brings_of_line e line hc hwrites⟩
  · rintro line ⟨r, hr, hb⟩
    obtain ⟨e, hc⟩ := (compileFrom_exists_iff 0 rs).mp ⟨es, hes⟩ r hr
    obtain ⟨hname, hvalue⟩ := hb.fit r e line hc
    have hsend : line.isSendable = true := by rw [Header.isSendable, hname, hvalue, Bool.and_self]
    refine ⟨line.clean_of_fit hname hvalue, hsend, fun hkept server first hfirst => ?_⟩
    obtain ⟨u, credentials, rfl⟩ := OutboundRequest.first_received _ server first hfirst
    exact Nat.le_trans (count_le_sentHeaders _ line hsend hkept)
      ((sentHeaders_sublist _ u credentials).count_le _)

theorem rules_bring_sent_headers_silent :
    let p := { Record.repeating with url := "http://[::1]:81/" }
    let rs := [.setHeader " B " "4"]
    let q := { p with headers := [⟨"A", "1"⟩, ⟨"B", "4"⟩, ⟨"a", "3"⟩] }
    let server : HttpServer := ⟨"[::1]:81", fun _ => .silence⟩
    let first : HttpRequest :=
      ⟨.get, "/", [⟨"a", "1"⟩, ⟨"b", "4"⟩, ⟨"a", "3"⟩, ⟨"accept", "*/*"⟩, ⟨"host", "[::1]:81"⟩], []⟩
    applyRules p rs .allowDuplicates = .ok q ∧
      (Rule.setHeader " B " "4").Brings ⟨"B", "4"⟩ ∧
      ((OutboundRequest.ofRecord q).send server).received.head? = some first ∧
      Header.Clean ⟨"B", "4"⟩ ∧ Header.isSendable ⟨"B", "4"⟩ = true ∧
      (OutboundRequest.ofRecord q).headers.count ⟨"B", "4"⟩ ≤ first.headers.count ⟨"b", "4"⟩ := by
  intro p rs q server first
  have h : applyRules p rs .allowDuplicates = .ok q := by decide +kernel +revert
  have hb : (Rule.setHeader " B " "4").Brings ⟨"B", "4"⟩ :=
    ⟨.inl (by decide +kernel), ⟨"header", " B", by decide +kernel, by decide, by decide,
      by decide +kernel⟩, rfl⟩
  let u : Url :=
    ⟨"http", "", "", some (.ipv6 [0, 0, 0, 0, 0, 0, 0, 1]), some 81, .segments [""], none, none⟩
  let hop : Hop :=
    ⟨.get, "http://[::1]:81/", "http", "[::1]:81", "/",
      [⟨"a", "1"⟩, ⟨"b", "4"⟩, ⟨"a", "3"⟩, ⟨"accept", "*/*"⟩], []⟩
  obtain ⟨hurl, hcred, hasked, hhop, hseen⟩ :
      (OutboundRequest.ofRecord q).resolvedUrl = .ok u ∧ splitCredentials u = (u, []) ∧
        isRequestable u = true ∧ Hop.first (OutboundRequest.ofRecord q) u [] = hop ∧
        hop.request = first := by
    decide +kernel +revert
  have hreaches : hop.reaches server = true := by
    have hcolon : ':' ∈ hop.authority.toList := by decide
    rw [Hop.reaches, String.contains_char_eq, if_pos (decide_eq_true hcolon)]
    exact Bool.and_eq_true_iff.mpr ⟨beq_self_eq_true "http", beq_self_eq_true "[::1]:81"⟩
  have hfirst : ((OutboundRequest.ofRecord q).send server).received.head? = some first := by
    rw [OutboundRequest.head_received _ _ u hurl, hcred, if_pos hasked, hhop,
      Option.filter_some_pos hreaches, Option.map_some, hseen]
  have hlow : "B".toLower = "b" := by decide +kernel
  obtain ⟨-, hbrought, -⟩ := rules_bring_sent_headers p q .allowDuplicates rs h
  obtain ⟨hclean, hsend, hcount⟩ := hbrought ⟨"B", "4"⟩ ⟨_, List.mem_cons_self, hb⟩
  have hcount := hcount (by decide) server first hfirst
  rw [hlow] at hcount
  exact ⟨h, hb, hfirst, hclean, hsend, hcount⟩

end PacketReplay
