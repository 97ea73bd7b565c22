import PacketReplay.Text.Basic

set_option autoImplicit false

namespace PacketReplay

/-- Some characters fall into words: a gap of blanks, which may be empty, then a word, and so on. A
word has a character at least, and none that is blank; it ends before a blank or at the end. -/
inductive FallsInto : List Char → List (List Char) → Prop where
  | gap (gap : List Char) (hgap : ∀ c ∈ gap, isBlank c = true) : FallsInto gap []
  | word (gap word rest : List Char) (ws : List (List Char)) (hgap : ∀ c ∈ gap, isBlank c = true)
      (hne : word ≠ []) (hword : ∀ c ∈ word, isBlank c = false)
      (hend : ∀ c, rest.head? = some c → isBlank c = true) (hrest : FallsInto rest ws) :
    FallsInto (gap ++ word ++ rest) (word :: ws)

theorem FallsInto.blank {cs : List Char} {ws : List (List Char)} (h : FallsInto cs ws) (c : Char)
    (hc : isBlank c = true) : FallsInto (c :: cs) ws := by
  cases h with
  | gap gap hgap => exact .gap (c :: cs) (List.forall_mem_cons.mpr ⟨hc, hgap⟩)
  | word gap word rest ws hgap hne hword hend hrest =>
    exact .word (c :: gap) word rest ws (List.forall_mem_cons.mpr ⟨hc, hgap⟩) hne hword hend hrest

-- These hold by `rfl`; the equations that are generated for the function are slow to come by.
theorem wordsFrom_nil_cons (c : Char) (cs : List Char) : wordsFrom [] (c :: cs) =
    if isBlank c then wordsFrom [] cs else wordsFrom [c] cs := rfl

theorem wordsFrom_cons_cons (d : Char) (word : List Char) (c : Char) (cs : List Char) :
    wordsFrom (d :: word) (c :: cs) =
      if isBlank c then (d :: word).reverse :: wordsFrom [] cs
      else wordsFrom (c :: d :: word) cs := rfl

theorem wordsFrom_blank (c : Char) (cs : List Char) (hc : isBlank c = true) :
    wordsFrom [] (c :: cs) = wordsFrom [] cs := by
  rw [wordsFrom_nil_cons, if_pos hc]

theorem wordsFrom_letter (word : List Char) (c : Char) (cs : List Char) (hc : isBlank c = false) :
    wordsFrom word (c :: cs) = wordsFrom (c :: word) cs := by
  have hne : ¬ isBlank c = true := by rw [hc]; exact Bool.false_ne_true
  cases word with
  | nil => rw [wordsFrom_nil_cons, if_neg hne]
  | cons d word => rw [wordsFrom_cons_cons, if_neg hne]

theorem wordsFrom_end (word cs : List Char) (hne : word ≠ [])
    (hend : ∀ c, cs.head? = some c → isBlank c = true) :
    wordsFrom word cs = word.reverse :: wordsFrom [] cs := by
  obtain ⟨d, word, rfl⟩ := List.exists_cons_of_ne_nil hne
  cases cs with
  | nil => rfl
  | cons c cs =>
    have hc := hend c rfl
    rw [wordsFrom_cons_cons, if_pos hc, wordsFrom_blank c cs hc]

/-- What is split off is a way of falling into words, whatever has been read of a word before. -/
theorem fallsInto_wordsFrom (cs word : List Char) (hword : ∀ c ∈ word, isBlank c = false) :
    FallsInto (word.reverse ++ cs) (wordsFrom word cs) := by
  induction cs generalizing word with
  | nil =>
    cases word with
    | nil => exact .gap [] (by simp)
    | cons c word =>
      have h := FallsInto.word [] (c :: word).reverse [] [] (by simp) (by simp)
        (fun d hd => hword d (List.mem_reverse.mp hd)) (by simp) (.gap [] (by simp))
      rwa [List.nil_append] at h
  | cons c cs ih =>
    cases hc : isBlank c with
    | true =>
      have hrest := (ih [] (by simp)).blank c hc
      rw [← wordsFrom_blank c cs hc] at hrest
      by_cases hne : word = []
      · rw [hne]
        exact hrest
      · rw [wordsFrom_end word (c :: cs) hne (by simp [hc])]
        exact .word [] word.reverse (c :: cs) _ (by simp) (by simpa using hne)
          (fun b hb => hword b (List.mem_reverse.mp hb)) (by simp [hc]) hrest
    | false =>
      have hnext := ih (c :: word) (List.forall_mem_cons.mpr ⟨hc, hword⟩)
      rw [wordsFrom_letter word c cs hc]
      rwa [List.reverse_cons, List.append_assoc] at hnext

theorem wordsFrom_gap (gap cs : List Char) (hgap : ∀ c ∈ gap, isBlank c = true) :
    wordsFrom [] (gap ++ cs) = wordsFrom [] cs := by
  induction gap with
  | nil => rfl
  | cons c gap ih =>
    obtain ⟨hc, hrest⟩ := List.forall_mem_cons.mp hgap
    rw [List.cons_append, wordsFrom_blank c _ hc]
    exact ih hrest

theorem wordsFrom_word (word read cs : List Char) (hword : ∀ c ∈ word, isBlank c = false) :
    wordsFrom read (word ++ cs) = wordsFrom (word.reverse ++ read) cs := by
  induction word generalizing read with
  | nil => rfl
  | cons c word ih =>
    obtain ⟨hc, hrest⟩ := List.forall_mem_cons.mp hword
    rw [List.cons_append, wordsFrom_letter read c _ hc, ih (c :: read) hrest, List.reverse_cons,
      List.append_assoc]
    rfl

/-- **A text falls into its words** in one way only. -/
theorem fallsInto_iff (cs : List Char) (ws : List (List Char)) :
    FallsInto cs ws ↔ wordsFrom [] cs = ws := by
  constructor
  · intro h
    induction h with
    | gap gap hgap =>
      have h := wordsFrom_gap gap [] hgap
      rwa [List.append_nil] at h
    | word gap word rest ws hgap hne hword hend _ ih =>
      rw [List.append_assoc, wordsFrom_gap gap _ hgap, wordsFrom_word word [] rest hword,
        List.append_nil, wordsFrom_end _ rest (by simpa using hne) hend, List.reverse_reverse, ih]
  · rintro rfl
    exact fallsInto_wordsFrom cs [] (by simp)

end PacketReplay
