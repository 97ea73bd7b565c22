import PacketReplay.Pattern.CharSet

set_option autoImplicit false

namespace PacketReplay.Pattern

inductive Flag where
  | caseless | multiLine | dotAll | swapGreed | unicode | crlf | ignoreSpace
deriving DecidableEq

abbrev FlagChanges := List (Flag × Bool)

/-- A literal character. One written as `\x` and two digits can also mean a byte. -/
structure Literal where
  char : Char
  twoDigits : Bool
deriving DecidableEq

inductive LetterClass where
  | digit | space | word
deriving DecidableEq

inductive SetOp where
  | inter | diff | symmDiff
deriving DecidableEq

inductive ClassSyntax where
  | literal (l : Literal)
  | range (low high : Literal)
  | ascii (s : CharSet) (negated : Bool)
  | letter (c : LetterClass) (negated : Bool)
  | property (s : CharSet) (negated : Bool)
  | bracketed (negated : Bool) (inner : ClassSyntax)
  | union (items : List ClassSyntax)
  | op (kind : SetOp) (left right : ClassSyntax)

inductive Assertion where
  | startLine
  | endLine
  | startText
  | endText
  | wordBoundary
  | notWordBoundary
  | wordStart
  | wordEnd
  | wordStartHalf
  | wordEndHalf
deriving DecidableEq

inductive Syntax where
  | empty
  | flags (changes : FlagChanges)
  | literal (l : Literal)
  | dot
  | assertion (a : Assertion)
  | property (s : CharSet) (negated : Bool)
  | letter (c : LetterClass) (negated : Bool)
  | bracketed (negated : Bool) (inner : ClassSyntax)
  /-- A repetition from `min` to `max` times, as many as possible when greedy. -/
  | repeated (min : Nat) (max : Option Nat) (greedy : Bool) (inner : Syntax)
  | capture (index : Nat) (inner : Syntax)
  | group (changes : FlagChanges) (inner : Syntax)
  | alternatives (branches : List Syntax)
  | sequence (parts : List Syntax)

/-- How deep brackets are nested, operators and lists of items included. -/
def ClassSyntax.depth : ClassSyntax → Nat
  | .bracketed _ inner => inner.depth + 1
  | .union items => depths items + 1
  | .op _ left right => max left.depth right.depth + 1
  | _ => 0
where
  depths : List ClassSyntax → Nat
    | [] => 0
    | c :: cs => max c.depth (depths cs)

def Syntax.depth : Syntax → Nat
  | .bracketed _ inner => inner.depth + 1
  | .repeated _ _ _ inner => inner.depth + 1
  | .capture _ inner => inner.depth + 1
  | .group _ inner => inner.depth + 1
  | .alternatives branches => depths branches + 1
  | .sequence parts => depths parts + 1
  | _ => 0
where
  depths : List Syntax → Nat
    | [] => 0
    | s :: ss => max s.depth (depths ss)

def Syntax.ofParts : List Syntax → Syntax
  | [] => .empty
  | [s] => s
  | parts => .sequence parts

def Syntax.ofBranches : List Syntax → Syntax
  | [s] => s
  | branches => .alternatives branches

def ClassSyntax.ofItems : List ClassSyntax → ClassSyntax
  | [c] => c
  | items => .union items

end PacketReplay.Pattern
