import PacketReplay.Proofs.LiteralMatches
import PacketReplay.Proofs.BodyText

set_option autoImplicit false

namespace PacketReplay

namespace Pattern

def isPlain (c : Char) : Bool :=
  c.isAlphanum || c == '_'

/-- A pattern of letters, digits and underscores, at least one. -/
structure Plain (pattern : String) : Prop where
  nonempty : pattern ≠ ""
  chars : ∀ c ∈ pattern.toList, isPlain c = true

/-- A pattern for whose program there is room: a state for each character, and those around them. -/
def Fits (pattern : String) : Prop :=
  frameSize false + stateSize * pattern.length ≤ sizeLimit

instance (pattern : String) : Decidable (Fits pattern) :=
  inferInstanceAs (Decidable (_ ≤ _))

theorem isPlain_lt (c : Char) (h : isPlain c = true) : c.toNat < 128 := by
  have hbound (high : Char) (hhigh : high.toNat < 128) (hc : c.val ≤ high.val) : c.toNat < 128 :=
    (UInt32.le_iff_toNat_le.mp hc).trans_lt hhigh
  rcases Bool.or_eq_true_iff.mp h with h | h
  · rcases Bool.or_eq_true_iff.mp h with h | h
    · rcases Bool.or_eq_true_iff.mp h with h | h
      · have hrange : c.val ≥ 'A'.val ∧ c.val ≤ 'Z'.val := of_decide_eq_true h
        exact hbound 'Z' (by decide) hrange.2
      · exact hbound 'z' (by decide) (of_decide_eq_true (Bool.and_eq_true_iff.mp h).2)
    · exact hbound '9' (by decide) (of_decide_eq_true (Bool.and_eq_true_iff.mp h).2)
  · rw [beq_iff_eq.mp h]
    decide

theorem utf8EncodeChar_plain (c : Char) (h : isPlain c = true) :
    String.utf8EncodeChar c = [c.toNat.toUInt8] := by
  have hlt : c.val.toNat ≤ 0x7f := Nat.le_of_lt_succ (isPlain_lt c h)
  rw [String.utf8EncodeChar]
  exact if_pos hlt

theorem Plain.toList_ne_nil (pattern : String) (h : Plain pattern) : pattern.toList ≠ [] :=
  fun hnil => h.nonempty (String.toList_eq_nil_iff.mp hnil)

def plainPart (c : Char) : Syntax :=
  .literal ⟨c, false⟩

theorem step_plain (s : ParserState) (c : Char) (rest : List Char) (h : isPlain c = true) :
    s.step c rest = some (s.push (plainPart c) rest) := by
  unfold ParserState.step
  extract_lets simple
  split
  case h_13 => rfl
  all_goals exact absurd h (by decide)

theorem run_plain (cs : List Char) (h : ∀ c ∈ cs, isPlain c = true) (s : ParserState)
    (hs : s.ignore = false) (hrest : s.rest = cs) :
    s.run (cs.length + 1) =
      some { s with rest := [], parts := (cs.map plainPart).reverse ++ s.parts } := by
  induction cs generalizing s with
  | nil =>
    obtain ⟨rest, ignore, branches, parts, frames, captures, names⟩ := s
    subst hs hrest
    rfl
  | cons c cs ih =>
    obtain ⟨hc, hcs⟩ := List.forall_mem_cons.mp h
    have hskip : skip s.ignore s.rest = c :: cs := by
      rw [hs, hrest]
      rfl
    have hrun : s.run ((c :: cs).length + 1) = (s.push (plainPart c) cs).run (cs.length + 1) := by
      rw [List.length_cons, ParserState.run, hskip]
      simp only [step_plain s c cs hc, Option.bind_eq_bind, Option.bind_some]
    rw [hrun, ih hcs (s.push (plainPart c) cs) hs rfl]
    simp [ParserState.push]

theorem depths_plain (cs : List Char) : Syntax.depth.depths (cs.map plainPart) = 0 := by
  induction cs with
  | nil => rfl
  | cons c cs ih =>
    rw [List.map_cons, Syntax.depth.depths, ih]
    rfl

theorem depth_plain (cs : List Char) : (Syntax.ofParts (cs.map plainPart)).depth ≤ 1 := by
  match cs with
  | [] => exact Nat.zero_le 1
  | [c] => exact Nat.zero_le 1
  | c :: d :: cs =>
    change Syntax.depth.depths ((c :: d :: cs).map plainPart) + 1 ≤ 1
    rw [depths_plain]

theorem parse_plain (pattern : String) (h : ∀ c ∈ pattern.toList, isPlain c = true) :
    parse pattern = some ⟨.ofParts (pattern.toList.map plainPart), []⟩ := by
  have hdepth := depth_plain pattern.toList
  have hlevel : ((Syntax.ofParts (pattern.toList.map plainPart)).depth ≤ nestLimit) := by
    unfold nestLimit
    omega
  unfold parse
  rw [run_plain pattern.toList h _ rfl rfl]
  simp [ParserState.level, Syntax.ofBranches, hlevel]

def plainTree (c : Char) : Tree :=
  .char (CharSet.one c.toNat)

def chainTree : List Char → Tree
  | [c] => plainTree c
  | cs => .sequence (cs.map plainTree)

theorem treesOf_plain (subject : Subject) (cs : List Char) :
    treesOf subject Flags.initial (cs.map plainPart) = some (cs.map plainTree, Flags.initial) := by
  induction cs with
  | nil => rfl
  | cons c cs ih =>
    have hc : treeOf subject Flags.initial (plainPart c) = some (plainTree c, Flags.initial) := rfl
    rw [List.map_cons, treesOf]
    simp only [hc, ih, Option.bind_eq_bind, Option.bind_some]
    rfl

theorem treeOf_plain (subject : Subject) (cs : List Char) (h : cs ≠ []) :
    treeOf subject Flags.initial (.ofParts (cs.map plainPart)) =
      some (chainTree cs, Flags.initial) := by
  match cs with
  | [c] => rfl
  | c :: d :: cs =>
    change treeOf subject Flags.initial (.sequence ((c :: d :: cs).map plainPart)) = _
    rw [treeOf, treesOf_plain]
    rfl

/-- The states of characters one after another, for the state to go on in, and where they start. -/
def chain (next : Nat) (states : Array State) : List Char → Nat × Array State
  | [] => (next, states)
  | c :: cs =>
    let (next, states) := chain next states cs
    (states.size, states.push (.char (CharSet.one c.toNat) next))

theorem size_plain (c : Char) (next : Nat) (h : c.toNat < 128) :
    (State.char (CharSet.one c.toNat) next).size = stateSize := by
  have hascii : CharSet.isAscii (CharSet.one c.toNat) = true := by
    simpa [CharSet.isAscii, CharSet.one] using h
  have hone : smallSetSize (CharSet.one c.toNat) = stateSize := if_pos rfl
  exact (if_pos hascii).trans hone

theorem add_plain (b : Builder) (c : Char) (next : Nat) (h : isPlain c = true) :
    b.add (.char (CharSet.one c.toNat) next) =
      if b.size + stateSize ≤ sizeLimit then
        some (b.states.size, ⟨b.states.push (.char (CharSet.one c.toNat) next), b.size + stateSize⟩)
      else none := by
  rw [Builder.add, size_plain c next (isPlain_lt c h)]
  by_cases hfits : b.size + stateSize ≤ sizeLimit
  · rw [if_pos hfits, if_neg (by omega)]
  · rw [if_neg hfits, if_pos (by omega)]

theorem ofSequence_plain (next : Nat) (b : Builder) (hb : b.size ≤ sizeLimit) (cs : List Char)
    (h : ∀ c ∈ cs, isPlain c = true) :
    Builder.ofSequence (cs.map plainTree) next b =
      if b.size + stateSize * cs.length ≤ sizeLimit then
        some ((chain next b.states cs).1,
          ⟨(chain next b.states cs).2, b.size + stateSize * cs.length⟩)
      else none := by
  induction cs with
  | nil =>
    rw [if_pos (by simpa using hb)]
    rfl
  | cons c cs ih =>
    obtain ⟨hc, hcs⟩ := List.forall_mem_cons.mp h
    have hsize : b.size + stateSize * cs.length + stateSize =
        b.size + stateSize * (c :: cs).length := by
      rw [List.length_cons, Nat.mul_add, Nat.mul_one, Nat.add_assoc]
    rw [List.map_cons, Builder.ofSequence, ih hcs]
    by_cases hfits : b.size + stateSize * cs.length ≤ sizeLimit
    · rw [if_pos hfits]
      change Builder.add _ (.char (CharSet.one c.toNat) _) = _
      rw [add_plain _ c _ hc]
      simp only [hsize]
      rfl
    · rw [if_neg hfits, if_neg (by omega)]
      rfl

theorem ofTree_chain (cs : List Char) (next : Nat) (b : Builder) (hne : cs ≠ []) :
    Builder.ofTree (chainTree cs) next b = Builder.ofSequence (cs.map plainTree) next b := by
  match cs with
  | [c] => rfl
  | c :: d :: cs => rfl

/-- A match of characters may begin anywhere. -/
theorem atStart_chain (cs : List Char) (hne : cs ≠ []) : (chainTree cs).atStart = false := by
  match cs with
  | [c] => rfl
  | c :: d :: cs => rfl

def chainProgram (cs : List Char) : Program :=
  let (start, states) := chain 0 #[.accept] cs
  ⟨states, start⟩

theorem ofTree_plain (cs : List Char) (hne : cs ≠ []) (h : ∀ c ∈ cs, isPlain c = true) :
    Program.ofTree (chainTree cs) =
      if frameSize false + stateSize * cs.length ≤ sizeLimit then some (chainProgram cs)
      else none := by
  rw [Program.ofTree, atStart_chain cs hne, ofTree_chain cs 0 _ hne,
    ofSequence_plain 0 _ (by decide) cs h]
  dsimp only
  split <;> rfl

end Pattern

open Pattern

namespace Regex

def plain (subject : Subject) (pattern : String) : Regex where
  subject := subject
  tree := chainTree pattern.toList
  program := chainProgram pattern.toList
  names := []

/-- **A plain pattern is refused only for its length.** -/
theorem compile_plain (subject : Subject) (pattern : String) (h : Plain pattern) :
    compile subject pattern = if Fits pattern then some (plain subject pattern) else none := by
  have hne := h.toList_ne_nil
  rw [compile, parse_plain pattern h.chars]
  simp only [Option.bind_eq_bind, Option.bind_some, treeOf_plain subject _ hne,
    ofTree_plain _ hne h.chars, String.length_toList]
  change ((if Fits pattern then _ else _) : Option Program).bind _ = _
  split <;> rfl

theorem asciiChar?_plain (c : Char) (h : isPlain c = true) :
    asciiChar? (plainTree c) = some c.toNat.toUInt8 :=
  if_pos ⟨rfl, isPlain_lt c h⟩

theorem charsBytes_plain (cs : List Char) (h : ∀ c ∈ cs, isPlain c = true) :
    charsBytes cs = cs.map fun c => c.toNat.toUInt8 := by
  induction cs with
  | nil => rfl
  | cons c cs ih =>
    obtain ⟨hc, hcs⟩ := List.forall_mem_cons.mp h
    rw [charsBytes_cons, ih hcs, utf8EncodeChar_plain c hc]
    rfl

theorem mapM_plain (cs : List Char) (h : ∀ c ∈ cs, isPlain c = true) :
    (cs.map plainTree).mapM asciiChar? = some (charsBytes cs) := by
  induction cs with
  | nil => rfl
  | cons c cs ih =>
    obtain ⟨hc, hcs⟩ := List.forall_mem_cons.mp h
    rw [List.map_cons, List.mapM_cons, asciiChar?_plain c hc, ih hcs, charsBytes_plain _ h,
      charsBytes_plain _ hcs]
    rfl

theorem literal?_chain (cs : List Char) (hne : cs ≠ []) (h : ∀ c ∈ cs, isPlain c = true) :
    literal? (chainTree cs) = some (charsBytes cs) := by
  match cs with
  | [c] =>
    obtain ⟨hc, -⟩ := List.forall_mem_cons.mp h
    change (asciiChar? (plainTree c)).map _ = _
    rw [asciiChar?_plain c hc, charsBytes_plain _ h]
    rfl
  | c :: d :: cs => exact mapM_plain (c :: d :: cs) h

theorem literal?_plain (subject : Subject) (pattern : String) (h : Plain pattern) :
    literal? (plain subject pattern).tree = some (textBytes pattern) := by
  rw [textBytes_eq]
  exact literal?_chain _ h.toList_ne_nil h.chars

end Regex

end PacketReplay
