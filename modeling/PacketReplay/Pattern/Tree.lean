import PacketReplay.Pattern.Parser

set_option autoImplicit false

namespace PacketReplay.Pattern

inductive Subject where
  | text | bytes
deriving DecidableEq

/-- A condition on a position. The words of a condition are of Unicode's word characters or of the
ASCII ones. -/
inductive Look where
  | start | finish
  | lineStart | lineEnd
  | crlfStart | crlfEnd
  | boundary (unicode : Bool)
  | notBoundary (unicode : Bool)
  | wordStart (unicode : Bool)
  | wordEnd (unicode : Bool)
  | wordStartHalf (unicode : Bool)
  | wordEndHalf (unicode : Bool)
deriving DecidableEq

inductive Tree where
  | empty
  | char (s : CharSet)
  | byte (s : CharSet)
  | look (l : Look)
  | repeated (min : Nat) (max : Option Nat) (greedy : Bool) (inner : Tree)
  | capture (index : Nat) (inner : Tree)
  | sequence (parts : List Tree)
  | alternatives (branches : List Tree)

structure Flags where
  caseless : Bool
  multiLine : Bool
  dotAll : Bool
  /-- Whether repetitions prefer few, and few means many. -/
  swapGreed : Bool
  unicode : Bool
  /-- Whether a line ends with a carriage return too. -/
  crlf : Bool
deriving DecidableEq

def Flags.initial : Flags :=
  ⟨false, false, false, false, true, false⟩

def Flags.change (f : Flags) (c : Flag × Bool) : Flags :=
  match c.1 with
  | .caseless => { f with caseless := c.2 }
  | .multiLine => { f with multiLine := c.2 }
  | .dotAll => { f with dotAll := c.2 }
  | .swapGreed => { f with swapGreed := c.2 }
  | .unicode => { f with unicode := c.2 }
  | .crlf => { f with crlf := c.2 }
  | .ignoreSpace => f

def Flags.changes (f : Flags) (cs : FlagChanges) : Flags :=
  cs.foldl Flags.change f

def Flags.top (f : Flags) : Nat :=
  if f.unicode then CharSet.topChar else CharSet.topByte

def Flags.fold (f : Flags) (s : CharSet) : CharSet :=
  if f.caseless then (if f.unicode then Unicode.foldCase s else CharSet.foldAscii s) else s

def Flags.negate (f : Flags) (negated : Bool) (s : CharSet) : CharSet :=
  if negated then CharSet.complement f.top s else s

/-- A set of bytes, unless the pattern is for text and the set has more than ASCII. -/
def checkBytes (subject : Subject) (f : Flags) (s : CharSet) : Option CharSet :=
  if subject = .text ∧ !f.unicode ∧ !CharSet.isAscii s then none else some s

def letterSet (f : Flags) : LetterClass → CharSet
  | .digit => if f.unicode then Unicode.digits else [(48, 57)]
  | .space => if f.unicode then Unicode.blanks else [(9, 13), (32, 32)]
  | .word =>
    if f.unicode then Unicode.wordChars else [(48, 57), (65, 90), (95, 95), (97, 122)]

def Literal.byte? (f : Flags) (l : Literal) : Option Nat :=
  if !f.unicode ∧ l.twoDigits ∧ 128 ≤ l.char.toNat then some l.char.toNat else none

def literalMember (subject : Subject) (f : Flags) (l : Literal) : Option Nat :=
  if f.unicode then some l.char.toNat
  else
    match l.byte? f with
    | some b => if subject = .text then none else some b
    | none => if l.char.toNat < 128 then some l.char.toNat else none

mutual

/-- The set of a class, before it is negated and its case ignored. -/
def classSet (subject : Subject) (f : Flags) : ClassSyntax → Option CharSet
  | .literal l => (literalMember subject f l).map CharSet.one
  | .range low high => do
    some [(← literalMember subject f low, ← literalMember subject f high)]
  | .ascii s negated => checkBytes subject f (f.negate negated (f.fold s))
  | .letter c negated => checkBytes subject f (f.negate negated (letterSet f c))
  | .property s negated => if f.unicode then some (f.negate negated (f.fold s)) else none
  | .bracketed negated inner => do
    checkBytes subject f (f.negate negated (f.fold (← classSet subject f inner)))
  | .union items => classSets subject f items
  | .op kind left right => do
    let a := f.fold (← classSet subject f left)
    let b := f.fold (← classSet subject f right)
    some <| match kind with
      | .inter => CharSet.inter f.top a b
      | .diff => CharSet.diff f.top a b
      | .symmDiff => CharSet.symmDiff f.top a b

def classSets (subject : Subject) (f : Flags) : List ClassSyntax → Option CharSet
  | [] => some []
  | c :: cs => do
    some (CharSet.union (← classSet subject f c) (← classSets subject f cs))

end

def Flags.tree (f : Flags) (s : CharSet) : Tree :=
  if f.unicode then .char s else .byte s

def literalTree (subject : Subject) (f : Flags) (l : Literal) : Option Tree :=
  match l.byte? f with
  | some b => if subject = .text then none else some (.byte (CharSet.one b))
  | none =>
    if f.caseless then
      if f.unicode then some (.char (f.fold (CharSet.one l.char.toNat)))
      else if l.char.toNat < 128 then some (.byte (f.fold (CharSet.one l.char.toNat)))
      else some (.char (CharSet.one l.char.toNat))
    else some (.char (CharSet.one l.char.toNat))

def dotTree (subject : Subject) (f : Flags) : Option Tree :=
  if subject = .text ∧ !f.unicode then none
  else
    let except : CharSet :=
      if f.dotAll then [] else if f.crlf then [(10, 10), (13, 13)] else [(10, 10)]
    some (f.tree (CharSet.complement f.top except))

def lookOf (f : Flags) : Assertion → Look
  | .startLine => if f.multiLine then (if f.crlf then .crlfStart else .lineStart) else .start
  | .endLine => if f.multiLine then (if f.crlf then .crlfEnd else .lineEnd) else .finish
  | .startText => .start
  | .endText => .finish
  | .wordBoundary => .boundary f.unicode
  | .notWordBoundary => .notBoundary f.unicode
  | .wordStart => .wordStart f.unicode
  | .wordEnd => .wordEnd f.unicode
  | .wordStartHalf => .wordStartHalf f.unicode
  | .wordEndHalf => .wordEndHalf f.unicode

mutual

def Tree.onlyEmpty : Tree → Bool
  | .empty => true
  | .look _ => true
  | .char _ => false
  | .byte _ => false
  | .repeated _ max _ inner => inner.onlyEmpty || max == some 0
  | .capture _ inner => inner.onlyEmpty
  | .sequence parts => allOnlyEmpty parts
  | .alternatives branches => allOnlyEmpty branches

def allOnlyEmpty : List Tree → Bool
  | [] => true
  | t :: ts => t.onlyEmpty && allOnlyEmpty ts

end

/-- A repetition, at most once of what only matches the empty sequence. -/
def Tree.repeat (min : Nat) (max : Option Nat) (greedy : Bool) (inner : Tree) : Tree :=
  let (min, max) := if inner.onlyEmpty then (Nat.min min 1, some (max.elim 1 (Nat.min · 1)))
    else (min, max)
  if max = some 0 then .empty
  else if min = 1 ∧ max = some 1 then inner
  else .repeated min max greedy inner

mutual

/-- Applies the flags, with the flags that hold afterwards on the same level. -/
def treeOf (subject : Subject) (f : Flags) : Syntax → Option (Tree × Flags)
  | .empty => some (.empty, f)
  | .flags changes => some (.empty, f.changes changes)
  | .literal l => (literalTree subject f l).map (·, f)
  | .dot => (dotTree subject f).map (·, f)
  | .assertion a => some (.look (lookOf f a), f)
  | .property s negated =>
    if f.unicode then some (.char (f.negate negated (f.fold s)), f) else none
  | .letter c negated => do
    some (f.tree (← checkBytes subject f (f.negate negated (letterSet f c))), f)
  | .bracketed negated inner => do
    let s ← classSet subject f inner
    some (f.tree (← checkBytes subject f (f.negate negated (f.fold s))), f)
  | .repeated min max greedy inner => do
    let (t, f) ← treeOf subject f inner
    some (.repeat min max (greedy != f.swapGreed) t, f)
  | .capture index inner => do
    let (t, _) ← treeOf subject f inner
    some (.capture index t, f)
  | .group changes inner => do
    let (t, _) ← treeOf subject (f.changes changes) inner
    some (t, f)
  | .sequence parts => do
    let (ts, f) ← treesOf subject f parts
    some (.sequence ts, f)
  | .alternatives branches => do
    let (ts, f) ← treesOf subject f branches
    some (.alternatives ts, f)

def treesOf (subject : Subject) (f : Flags) : List Syntax → Option (List Tree × Flags)
  | [] => some ([], f)
  | s :: ss => do
    let (t, f) ← treeOf subject f s
    let (ts, f) ← treesOf subject f ss
    some (t :: ts, f)

end

mutual

def Tree.neverEmpty : Tree → Bool
  | .empty => false
  | .look _ => false
  | .char s => !s.isEmpty
  | .byte s => !s.isEmpty
  | .repeated min _ _ inner => min != 0 && inner.neverEmpty
  | .capture _ inner => inner.neverEmpty
  | .sequence parts => anyNeverEmpty parts
  | .alternatives branches => allNeverEmpty branches

def anyNeverEmpty : List Tree → Bool
  | [] => false
  | t :: ts => t.neverEmpty || anyNeverEmpty ts

def allNeverEmpty : List Tree → Bool
  | [] => true
  | t :: ts => t.neverEmpty && allNeverEmpty ts

end

mutual

/-- Whether every match of a tree begins at the start of the subject. -/
def Tree.atStart : Tree → Bool
  | .look l => l == .start
  | .repeated min _ _ inner => min != 0 && inner.atStart
  | .capture _ inner => inner.atStart
  | .sequence parts => anyAtStart parts
  | .alternatives branches => allAtStart branches
  | _ => false

def anyAtStart : List Tree → Bool
  | [] => false
  | t :: ts => t.atStart || t.onlyEmpty && anyAtStart ts

def allAtStart : List Tree → Bool
  | [] => true
  | t :: ts => t.atStart && allAtStart ts

end

end PacketReplay.Pattern
