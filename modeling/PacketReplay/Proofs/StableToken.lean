import Mathlib.Data.List.TakeWhile
import PacketReplay.Access.Gate
import PacketReplay.Proofs.Admission
import PacketReplay.Proofs.BodyText

set_option autoImplicit false

namespace PacketReplay

theorem trimBlanks_padded (left cs right : List Char) (hleft : ∀ c ∈ left, isBlank c = true)
    (hright : ∀ c ∈ right, isBlank c = true) :
    trimBlanks (left ++ cs ++ right) = trimBlanks cs := by
  have hback : ∀ c ∈ right.reverse, isBlank c = true :=
    fun c hc => hright c (List.mem_reverse.mp hc)
  rw [trimBlanks, trimBlanks, dropBlanks, dropBlanks, dropBlanks, dropBlanks, List.append_assoc,
    List.dropWhile_append_of_pos hleft, List.dropWhile_append]
  split
  · rename_i hempty
    rw [List.isEmpty_iff.mp hempty, List.dropWhile_eq_nil_iff.mpr hright]
  · rw [List.reverse_append, List.dropWhile_append_of_pos hback]

theorem exists_padding (cs : List Char) : ∃ left right, cs = left ++ trimBlanks cs ++ right ∧
    (∀ c ∈ left, isBlank c = true) ∧ ∀ c ∈ right, isBlank c = true := by
  have hfront := List.takeWhile_append_dropWhile (p := isBlank) (l := cs)
  have hback := List.takeWhile_append_dropWhile (p := isBlank) (l := (dropBlanks cs).reverse)
  refine ⟨cs.takeWhile isBlank, ((dropBlanks cs).reverse.takeWhile isBlank).reverse, ?_,
    fun c hc => List.mem_takeWhile_imp hc,
    fun c hc => List.mem_takeWhile_imp (List.mem_reverse.mp hc)⟩
  rw [trimBlanks, List.append_assoc, ← List.reverse_append]
  unfold dropBlanks at hback ⊢
  rw [hback, List.reverse_reverse, hfront]

theorem trimBlanks_trimBlanks (cs : List Char) : trimBlanks (trimBlanks cs) = trimBlanks cs := by
  obtain ⟨left, right, hcs, hleft, hright⟩ := exists_padding cs
  have hpadded := trimBlanks_padded left (trimBlanks cs) right hleft hright
  rw [← hcs] at hpadded
  exact hpadded.symm

theorem dropBlanks_eq_self (cs : List Char) (h : ∀ c ∈ cs, isBlank c = false) :
    dropBlanks cs = cs := by
  cases cs with
  | nil => rfl
  | cons c cs =>
    have hc : ¬ isBlank c = true := by rw [h c List.mem_cons_self]; decide
    rw [dropBlanks, List.dropWhile_cons_of_neg hc]

theorem trim_trim (s : String) : trim (trim s) = trim s := by
  rw [trim, trim, String.toList_ofList, trimBlanks_trimBlanks]

theorem trim_padded (left s right : String) (hleft : ∀ c ∈ left.toList, isBlank c = true)
    (hright : ∀ c ∈ right.toList, isBlank c = true) : trim (left ++ s ++ right) = trim s := by
  rw [trim, String.toList_append, String.toList_append, trimBlanks_padded _ _ _ hleft hright]
  rfl

theorem trim_eq_self (s : String) (h : ∀ c ∈ s.toList, isBlank c = false) : trim s = s := by
  have hback : ∀ c ∈ s.toList.reverse, isBlank c = false := fun c hc => h c (List.mem_reverse.mp hc)
  rw [trim, trimBlanks, dropBlanks_eq_self _ h, dropBlanks_eq_self _ hback, List.reverse_reverse,
    String.ofList_toList]

structure IsFresh (token : String) : Prop where
  ne : token ≠ ""
  solid : ∀ c ∈ token.toList, isBlank c = false

namespace TokenFile

theorem expected_text (s : String) : (file (textBytes s)).expected =
    if trim s = "" then .nothing else .token (trim s) := by
  rw [expected, bytesText?_textBytes]

theorem expected_fresh (token : String) (h : IsFresh token) :
    (file (textBytes token)).expected = .token token := by
  rw [expected_text, trim_eq_self token h.solid, if_neg h.ne]

theorem expected_no_text (contents : Bytes) (h : ∀ s, contents ≠ textBytes s) :
    (file contents).expected = .failed := by
  cases hb : bytesText? contents with
  | none => rw [expected, hb]
  | some s => exact absurd (textBytes_of_bytesText? contents s hb).symm (h s)

theorem trimmed_of_expected (f : TokenFile) (t : String) (h : f.expected = .token t) :
    t ≠ "" ∧ trim t = t := by
  cases f with
  | missing => cases h
  | unreadable => cases h
  | file contents =>
    rw [expected] at h
    split at h
    · cases h
    · split at h
      · cases h
      · rename_i s _ hne
        cases h
        exact ⟨hne, trim_trim s⟩

section

variable (f : TokenFile)

theorem turn_of_known (e : Expected) (h : f.expected = e) (he : e ≠ .nothing) (call : TokenCall) :
    f.turn call = ⟨e, none⟩ := by
  cases call with
  | read => rw [turn, h]
  | ensure fresh =>
    cases e with
    | token t => rw [turn, h]
    | nothing => exact absurd rfl he
    | failed => rw [turn, h]

theorem turn_of_nothing (fresh : String) (h : f.expected = .nothing) :
    f.turn (.ensure fresh) = ⟨.token fresh, some (textBytes fresh)⟩ := by
  rw [turn, h]

theorem ensure_eq_turn (fresh t : String) (h : (f.turn (.ensure fresh)).answer = .token t) :
    f.ensure fresh = (some t, f.overwritten (f.turn (.ensure fresh)).written) := by
  cases he : f.expected with
  | token s =>
    rw [turn, he] at h ⊢
    cases h
    rw [ensure, he]
    rfl
  | nothing =>
    rw [turn, he] at h ⊢
    cases h
    rw [ensure, he]
    rfl
  | failed =>
    rw [turn, he] at h
    cases h

theorem expected_of_turn (fresh t : String) (hfresh : IsFresh fresh)
    (h : (f.turn (.ensure fresh)).answer = .token t) :
    (f.overwritten (f.turn (.ensure fresh)).written).expected = .token t := by
  cases he : f.expected with
  | token s =>
    rw [turn, he] at h ⊢
    cases h
    exact he
  | nothing =>
    rw [turn, he] at h ⊢
    cases h
    exact expected_fresh fresh hfresh
  | failed =>
    rw [turn, he] at h
    cases h

theorem run_append (calls more : List TokenCall) : f.run (calls ++ more) =
    ((f.run calls).1 ++ ((f.run calls).2.run more).1, ((f.run calls).2.run more).2) := by
  induction calls generalizing f with
  | nil => rfl
  | cons call calls ih =>
    rw [List.cons_append, run, ih]
    rfl

/-- What is known of the token stays so, and nothing is written. -/
theorem run_of_known (e : Expected) (h : f.expected = e) (he : e ≠ .nothing)
    (calls : List TokenCall) : f.run calls = (calls.map fun _ => ⟨e, none⟩, f) := by
  induction calls with
  | nil => rfl
  | cons call calls ih =>
    rw [run, f.turn_of_known e h he call]
    simp only [overwritten, ih, List.map_cons]

theorem run_of_reads (calls : List TokenCall) (h : ∀ call ∈ calls, call = .read) :
    f.run calls = (calls.map fun _ => ⟨f.expected, none⟩, f) := by
  induction calls with
  | nil => rfl
  | cons call calls ih =>
    obtain ⟨rfl, hrest⟩ := List.forall_mem_cons.mp h
    rw [run]
    simp only [turn, overwritten, ih hrest, List.map_cons]

/-- A file without a token gets one from the first call that asks for it to be there. -/
theorem run_of_nothing (before : List TokenCall) (fresh : String) (after : List TokenCall)
    (h : f.expected = .nothing) (hbefore : ∀ call ∈ before, call = .read) (hfresh : IsFresh fresh) :
    f.run (before ++ .ensure fresh :: after) =
      (before.map (fun _ => ⟨.nothing, none⟩) ++ ⟨.token fresh, some (textBytes fresh)⟩ ::
        after.map fun _ => ⟨.token fresh, none⟩, .file (textBytes fresh)) := by
  have hafter := (file (textBytes fresh)).run_of_known _ (expected_fresh fresh hfresh) nofun after
  rw [run_append, f.run_of_reads before hbefore, h, run, f.turn_of_nothing fresh h]
  simp only [overwritten, hafter]

theorem expected_run (before : List TokenCall) (fresh : String) (after : List TokenCall)
    (t : String) (hfresh : IsFresh fresh)
    (h : ((f.run before).2.turn (.ensure fresh)).answer = .token t) :
    (f.run (before ++ .ensure fresh :: after)).2.expected = .token t := by
  have hheld := expected_of_turn (f.run before).2 fresh t hfresh h
  have hafter := run_of_known _ _ hheld nofun after
  rw [run_append, run]
  simp only [hafter, hheld]

end

end TokenFile

theorem TrustStore.authorize_token_iff (f : TokenFile) (t : String) (h : f.expected = .token t)
    (presented : Option String) : (TrustStore.file f).authorize presented = .ok () ↔
      ∃ p, presented = some p ∧ trim p = t := by
  have hexpected : (TrustStore.file f).expected = .token t := h
  rw [authorize_ok_iff, hexpected]
  simp only [Expected.token.injEq, textBytes_inj]
  constructor
  · rintro ⟨_, p, rfl, hp, -, heq⟩
    exact ⟨p, hp, heq⟩
  · rintro ⟨p, hp, heq⟩
    exact ⟨t, p, rfl, hp, by rw [heq]; exact (f.trimmed_of_expected t h).1, heq⟩

/-- **A token that is there stays, and one that is missing is made once.** Calls of the token file
ask for the token or for one to be there, fresh ones being texts without blanks. If the file is text
and something is left of it without the blanks around, every call answers that and the file is never
written. If there is no file or only blanks in it, nothing is answered or written until the first
call that asks for a token to be there; that call writes its fresh token, and every later one
answers it and writes nothing. If the file is no text or cannot be read, every call fails and the
file is left as it is. After a call that made sure of a token, and whatever calls come later, the
gate over the file lets a caller through just when the presented text without the blanks around it
is that token. -/
theorem established_token_stays (f : TokenFile) (calls : List TokenCall)
    (hfresh : ∀ fresh, .ensure fresh ∈ calls → IsFresh fresh) :
    (∀ s, f = .file (textBytes s) → trim s ≠ "" →
      f.run calls = (calls.map fun _ => ⟨.token (trim s), none⟩, f)) ∧
    (f = .missing ∨ (∃ s, f = .file (textBytes s) ∧ trim s = "") →
      ((∀ call ∈ calls, call = .read) →
        f.run calls = (calls.map fun _ => ⟨.nothing, none⟩, f)) ∧
      ∀ before fresh after, calls = before ++ .ensure fresh :: after →
        (∀ call ∈ before, call = .read) →
        f.run calls =
          (before.map (fun _ => ⟨.nothing, none⟩) ++ ⟨.token fresh, some (textBytes fresh)⟩ ::
            after.map fun _ => ⟨.token fresh, none⟩, .file (textBytes fresh))) ∧
    (f = .unreadable ∨ (∃ contents, f = .file contents ∧ ∀ s, contents ≠ textBytes s) →
      f.run calls = (calls.map fun _ => ⟨.failed, none⟩, f)) ∧
    ∀ before fresh after t, calls = before ++ .ensure fresh :: after →
      ((f.run before).2.turn (.ensure fresh)).answer = .token t →
      let g := (f.run calls).2
      t ≠ "" ∧ (∀ other, g.ensure other = (some t, g)) ∧
      (∀ presented, (TrustStore.file g).authorize presented = .ok () ↔
        ∃ p, presented = some p ∧ trim p = t) ∧
      ∀ left right : String, (∀ c ∈ left.toList, isBlank c = true) →
        (∀ c ∈ right.toList, isBlank c = true) →
        (TrustStore.file g).authorize (some (left ++ t ++ right)) = .ok () := by
  refine ⟨?_, fun hnothing => ?_, fun hfailed => ?_, ?_⟩
  · rintro s rfl hs
    have hheld : (TokenFile.file (textBytes s)).expected = .token (trim s) := by
      rw [TokenFile.expected_text, if_neg hs]
    exact TokenFile.run_of_known _ _ hheld nofun calls
  · have hheld : f.expected = .nothing := by
      rcases hnothing with rfl | ⟨s, rfl, hs⟩
      · rfl
      · rw [TokenFile.expected_text, if_pos hs]
    refine ⟨fun hreads => ?_, ?_⟩
    · rw [f.run_of_reads calls hreads, hheld]
    · rintro before fresh after rfl hbefore
      exact f.run_of_nothing before fresh after hheld hbefore (hfresh fresh (by simp))
  · have hheld : f.expected = .failed := by
      rcases hfailed with rfl | ⟨contents, rfl, hcontents⟩
      · rfl
      · exact TokenFile.expected_no_text contents hcontents
    exact f.run_of_known _ hheld nofun calls
  · rintro before fresh after t rfl hanswer g
    have hheld : g.expected = .token t :=
      f.expected_run before fresh after t (hfresh fresh (by simp)) hanswer
    obtain ⟨hne, htrim⟩ := g.trimmed_of_expected t hheld
    refine ⟨hne, fun other => ?_, TrustStore.authorize_token_iff g t hheld, ?_⟩
    · have hturn := g.turn_of_known _ hheld nofun (.ensure other)
      rw [g.ensure_eq_turn other t (by rw [hturn]), hturn]
      rfl
    · intro left right hleft hright
      rw [TrustStore.authorize_token_iff g t hheld]
      exact ⟨_, rfl, (trim_padded left t right hleft hright).trans htrim⟩

/-- A blank file: two calls look for a token, the second of two others makes one. -/
theorem established_token_stays_blank :
    let f : TokenFile := .file (textBytes " \n")
    let calls : List TokenCall := [.read, .ensure "0f1e", .read, .ensure "2d3c"]
    f.run calls = ([⟨.nothing, none⟩, ⟨.token "0f1e", some (textBytes "0f1e")⟩,
      ⟨.token "0f1e", none⟩, ⟨.token "0f1e", none⟩], .file (textBytes "0f1e")) ∧
      (TrustStore.file (f.run calls).2).authorize (some "\t0f1e ") = .ok () := by
  intro f calls
  have hturn : ((f.run [.read]).2.turn (.ensure "0f1e")).answer = .token "0f1e" := by
    decide +kernel +revert
  have hfresh : ∀ fresh, .ensure fresh ∈ calls → IsFresh fresh := by
    intro fresh hmem
    have hcases : fresh = "0f1e" ∨ fresh = "2d3c" := by simpa [calls] using hmem
    rcases hcases with rfl | rfl
    · exact ⟨by decide, by simp [isBlank]⟩
    · exact ⟨by decide, by simp [isBlank]⟩
  obtain ⟨-, hnothing, -, hgate⟩ := established_token_stays f calls hfresh
  have hblank : trim " \n" = "" := by decide +kernel
  have hrun := (hnothing (.inr ⟨" \n", rfl, hblank⟩)).2 [.read] "0f1e" _ rfl (by decide)
  obtain ⟨-, -, hopen, -⟩ := hgate [.read] "0f1e" _ "0f1e" rfl hturn
  exact ⟨hrun, (hopen _).mpr ⟨_, rfl, by decide +kernel⟩⟩

end PacketReplay
