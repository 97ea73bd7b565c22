import PacketReplay.Pattern.ClassParser

set_option autoImplicit false

namespace PacketReplay.Pattern

inductive GroupKind where
  | capture (index : Nat)
  | flags (changes : FlagChanges)

/-- An open group: what came before it on the enclosing level, in reverse, and whether blanks were
ignored there. -/
structure GroupFrame where
  kind : GroupKind
  branches : List Syntax
  parts : List Syntax
  ignore : Bool

structure ParserState where
  rest : List Char
  ignore : Bool
  branches : List Syntax
  parts : List Syntax
  frames : List GroupFrame
  captures : Nat
  names : List (String × Nat)

def ParserState.level (s : ParserState) : Syntax :=
  .ofBranches ((Syntax.ofParts s.parts.reverse :: s.branches).reverse)

def ParserState.push (s : ParserState) (part : Syntax) (rest : List Char) : ParserState :=
  { s with parts := part :: s.parts, rest := rest }

def flagOf? : Char → Option Flag
  | 'i' => some .caseless
  | 'm' => some .multiLine
  | 's' => some .dotAll
  | 'U' => some .swapGreed
  | 'u' => some .unicode
  | 'R' => some .crlf
  | 'x' => some .ignoreSpace
  | _ => none

/-- Reads flags up to a colon or a closing parenthesis, which is left standing. A flag stands once,
a minus sign stands once and is not the last. -/
def readFlags : FlagChanges → Option Bool → List Char → Option (FlagChanges × List Char)
  | _, _, [] => none
  | changes, minus, c :: rest =>
    if c = ':' ∨ c = ')' then
      if minus = some true then none else some (changes.reverse, c :: rest)
    else if c = '-' then
      if minus.isSome then none else readFlags changes (some true) rest
    else do
      let flag ← flagOf? c
      if changes.any fun change => change.1 = flag then none
      else readFlags ((flag, minus.isNone) :: changes) (minus.map fun _ => false) rest

def isNameChar (c : Char) (first : Bool) : Bool :=
  c == '_' || if first then Unicode.letters.has c.toNat
    else c == '.' || c == '[' || c == ']' || Unicode.lettersAndNumbers.has c.toNat

def readGroupName : List Char → List Char → Option (String × List Char)
  | _, [] => none
  | acc, '>' :: rest => if acc.isEmpty then none else some (String.ofList acc.reverse, rest)
  | acc, c :: rest => if isNameChar c acc.isEmpty then readGroupName (c :: acc) rest else none

def ignoreAfter (changes : FlagChanges) (before : Bool) : Bool :=
  match changes.find? fun change => change.1 = .ignoreSpace with
  | some change => change.2
  | none => before

def ParserState.openGroup (s : ParserState) (kind : GroupKind) (ignore : Bool)
    (rest : List Char) : ParserState :=
  { s with rest, ignore, branches := [], parts := [],
           frames := ⟨kind, s.branches, s.parts, s.ignore⟩ :: s.frames }

def ParserState.openNamed (s : ParserState) (cs : List Char) : Option ParserState := do
  let (name, rest) ← readGroupName [] cs
  if s.names.any fun n => n.1 = name then none
  else
    let index := s.captures + 1
    some { s.openGroup (.capture index) s.ignore rest with
           captures := index, names := (name, index) :: s.names }

def ParserState.readGroup (s : ParserState) (cs : List Char) : Option ParserState :=
  match skip s.ignore cs with
  | '?' :: '=' :: _ | '?' :: '!' :: _ | '?' :: '<' :: '=' :: _ | '?' :: '<' :: '!' :: _ => none
  | '?' :: 'P' :: '<' :: rest => s.openNamed rest
  | '?' :: '<' :: rest => s.openNamed rest
  | '?' :: rest => do
    let (changes, rest) ← readFlags [] none rest
    match rest with
    | ')' :: rest =>
      if changes.isEmpty then none
      else some { s.push (.flags changes) rest with ignore := ignoreAfter changes s.ignore }
    | _ :: rest => some (s.openGroup (.flags changes) (ignoreAfter changes s.ignore) rest)
    | [] => none
  | rest =>
    let index := s.captures + 1
    some { s.openGroup (.capture index) s.ignore rest with captures := index }

def ParserState.closeGroup (s : ParserState) (rest : List Char) : Option ParserState :=
  match s.frames with
  | [] => none
  | frame :: frames =>
    let group := match frame.kind with
      | .capture index => Syntax.capture index s.level
      | .flags changes => Syntax.group changes s.level
    some { s with rest, ignore := frame.ignore, branches := frame.branches,
                  parts := group :: frame.parts, frames }

/-- Repeats the last part; there has to be one, and it is no change of flags. -/
def ParserState.repeatLast (s : ParserState) (min : Nat) (max : Option Nat) (greedy : Bool)
    (rest : List Char) : Option ParserState :=
  match s.parts with
  | [] => none
  | .flags _ :: _ => none
  | .empty :: _ => none
  | part :: parts => some { s with rest, parts := .repeated min max greedy part :: parts }

def readGreed (cs : List Char) : Bool × List Char :=
  match cs with
  | '?' :: rest => (false, rest)
  | _ => (true, cs)

def readCountDigits (ignore : Bool) : Nat → List Char → List Nat → List Nat × List Char
  | 0, cs, ds => (ds.reverse, cs)
  | fuel + 1, cs, ds =>
    match cs with
    | c :: rest =>
      if c.isDigit then readCountDigits ignore fuel (skip ignore rest) ((c.toNat - 48) :: ds)
      else (ds.reverse, c :: rest)
    | [] => (ds.reverse, [])

def readCount (ignore : Bool) (cs : List Char) : Option (Nat × List Char) :=
  let cs := dropBlanks cs
  match readCountDigits ignore (cs.length + 1) cs [] with
  | ([], _) => none
  | (ds, rest) =>
    let n := ds.foldl (fun n d => n * 10 + d) 0
    if n < 0x100000000 then some (n, dropBlanks rest) else none

def ParserState.readCounted (s : ParserState) (cs : List Char) : Option ParserState := do
  let (min, rest) ← readCount s.ignore (skip s.ignore cs)
  let (max, rest) : Option Nat × List Char ← match rest with
    | ',' :: rest =>
      match skip s.ignore rest with
      | '\x7d' :: _ => some (none, skip s.ignore rest)
      | rest => do
        let (max, rest) ← readCount s.ignore rest
        some (some max, rest)
    | _ => some (some min, rest)
  match rest with
  | '\x7d' :: rest =>
    let (greedy, rest) := readGreed (skip s.ignore rest)
    match max with
    | some m => if min ≤ m then s.repeatLast min max greedy rest else none
    | none => s.repeatLast min max greedy rest
  | _ => none

def Escaped.asSyntax : Escaped → Syntax
  | .literal l => .literal l
  | .letter c negated => .letter c negated
  | .property s negated => .property s negated
  | .assertion a => .assertion a

def ParserState.step (s : ParserState) (c : Char) (rest : List Char) : Option ParserState :=
  let simple (min : Nat) (max : Option Nat) :=
    let (greedy, rest) := readGreed rest
    s.repeatLast min max greedy rest
  match c with
  | '(' => s.readGroup rest
  | ')' => s.closeGroup rest
  | '|' => some { s with rest, branches := .ofParts s.parts.reverse :: s.branches, parts := [] }
  | '[' => do
    let (negated, inner, rest) ← readClass s.ignore rest
    some (s.push (.bracketed negated inner) rest)
  | '?' => simple 0 (some 1)
  | '*' => simple 0 none
  | '+' => simple 1 none
  | '\x7b' => s.readCounted rest
  | '\\' => do
    let (e, rest) ← readEscape s.ignore rest
    some (s.push e.asSyntax rest)
  | '.' => some (s.push .dot rest)
  | '^' => some (s.push (.assertion .startLine) rest)
  | '$' => some (s.push (.assertion .endLine) rest)
  | c => some (s.push (.literal ⟨c, false⟩) rest)

def ParserState.run : Nat → ParserState → Option ParserState
  | 0, _ => none
  | fuel + 1, s =>
    match skip s.ignore s.rest with
    | [] => some s
    | c :: rest => do (← s.step c rest).run fuel

def nestLimit : Nat := 250

structure Parsed where
  pattern : Syntax
  names : List (String × Nat)

def parse (text : String) : Option Parsed := do
  let s ← ParserState.run (text.toList.length + 1) ⟨text.toList, false, [], [], [], 0, []⟩
  if s.frames.isEmpty && s.level.depth ≤ nestLimit then some ⟨s.level, s.names⟩ else none

end PacketReplay.Pattern
