import PacketReplay.Pattern.Escape

set_option autoImplicit false

namespace PacketReplay.Pattern

/-- What an inner part of a class will be added to. -/
inductive ClassFrame where
  /-- An enclosing class: its items so far, in reverse, and whether the inner one is negated. -/
  | opened (outer : List ClassSyntax) (negated : Bool)
  | pending (kind : SetOp) (left : ClassSyntax)

def readHyphens (ignore : Bool) : Nat → List ClassSyntax → List Char →
    Option (List ClassSyntax × List Char)
  | 0, _, _ => none
  | fuel + 1, items, cs =>
    match cs with
    | '-' :: rest => readHyphens ignore fuel (.literal ⟨'-', false⟩ :: items) (skip ignore rest)
    | [] => none
    | cs => some (items, cs)

/-- Reads the start of a class after its bracket: whether it is negated, and the literals that only
have a meaning of their own further on. -/
def readClassStart (ignore : Bool) (cs : List Char) :
    Option (Bool × List ClassSyntax × List Char) := do
  let cs := skip ignore cs
  let (negated, cs) := match cs with
    | '^' :: rest => (true, skip ignore rest)
    | _ => (false, cs)
  let (items, cs) ← readHyphens ignore (cs.length + 1) [] cs
  match items, cs with
  | [], ']' :: rest =>
    match skip ignore rest with
    | [] => none
    | rest => some (negated, [.literal ⟨']', false⟩], rest)
  | _, _ => some (negated, items, cs)

def spanToColon : List Char → List Char → Option (List Char × List Char)
  | _, [] => none
  | acc, ':' :: rest => some (acc.reverse, rest)
  | acc, c :: rest => spanToColon (c :: acc) rest

/-- Reads a named set such as `[:alpha:]` after its bracket, if there is one. -/
def readNamedSet (cs : List Char) : Option (ClassSyntax × List Char) :=
  match cs with
  | ':' :: rest =>
    let (negated, rest) := match rest with
      | '^' :: rest => (true, rest)
      | _ => (false, rest)
    match spanToColon [] rest with
    | some (name, ']' :: rest) =>
      (CharSet.asciiNamed? (String.ofList name)).map fun s => (.ascii s negated, rest)
    | _ => none
  | _ => none

def readClassItem (ignore : Bool) (cs : List Char) : Option (Escaped × List Char) :=
  match cs with
  | [] => none
  | '\\' :: rest => readEscape ignore rest
  | c :: rest => some (.literal ⟨c, false⟩, rest)

def Escaped.asClass? : Escaped → Option ClassSyntax
  | .literal l => some (.literal l)
  | .letter c negated => some (.letter c negated)
  | .property s negated => some (.property s negated)
  | .assertion _ => none

/-- What comes after blanks and the mark of a comment, when these are ignored: the character that
decides whether a hyphen makes a range. -/
def peekPast (ignore : Bool) (cs : List Char) : Option Char :=
  let rec look (inComment : Bool) : List Char → Option Char
    | [] => none
    | c :: rest =>
      if isBlank c then look inComment rest
      else if c = '#' ∧ !inComment then look true rest
      else some c
  if ignore then
    match look false cs with
    | some c => some c
    | none => cs.head?
  else cs.head?

def readClassRange (ignore : Bool) (cs : List Char) : Option (ClassSyntax × List Char) := do
  let (first, rest) ← readClassItem ignore cs
  match skip ignore rest with
  | [] => none
  | '-' :: after =>
    let next := peekPast ignore after
    if next = some ']' ∨ next = some '-' then some (← first.asClass?, '-' :: after)
    else
      let (second, rest) ← readClassItem ignore (skip ignore after)
      match first, second with
      | .literal low, .literal high =>
        if low.char ≤ high.char then some (.range low high, rest) else none
      | _, _ => none
  | rest => some (← first.asClass?, rest)

/-- Joins a finished side of an operator with the pending left side. -/
def closeOperator (right : ClassSyntax) : List ClassFrame → ClassSyntax × List ClassFrame
  | .pending kind left :: frames => (.op kind left right, frames)
  | frames => (right, frames)

/-- Reads a class to its closing bracket, given the items so far in reverse. -/
def readClassFrom (ignore : Bool) : Nat → List ClassFrame → List ClassSyntax → List Char →
    Option (Bool × ClassSyntax × List Char)
  | 0, _, _, _ => none
  | fuel + 1, frames, items, cs =>
    let operator (kind : SetOp) (rest : List Char) :=
      let (left, frames) := closeOperator (.ofItems items.reverse) frames
      readClassFrom ignore fuel (.pending kind left :: frames) [] rest
    match skip ignore cs with
    | [] => none
    | '[' :: rest =>
      match readNamedSet rest with
      | some (item, rest) => readClassFrom ignore fuel frames (item :: items) rest
      | none => do
        let (negated, inner, rest) ← readClassStart ignore rest
        readClassFrom ignore fuel (.opened items negated :: frames) inner rest
    | ']' :: rest =>
      match closeOperator (.ofItems items.reverse) frames with
      | (inner, [.opened _ negated]) => some (negated, inner, rest)
      | (inner, .opened outer negated :: frames) =>
        readClassFrom ignore fuel frames (.bracketed negated inner :: outer) rest
      | _ => none
    | '&' :: '&' :: rest => operator .inter rest
    | '-' :: '-' :: rest => operator .diff rest
    | '~' :: '~' :: rest => operator .symmDiff rest
    | cs => do
      let (item, rest) ← readClassRange ignore cs
      readClassFrom ignore fuel frames (item :: items) rest

def readClass (ignore : Bool) (cs : List Char) : Option (Bool × ClassSyntax × List Char) := do
  let (negated, items, rest) ← readClassStart ignore cs
  readClassFrom ignore (cs.length + 1) [.opened [] negated] items rest

end PacketReplay.Pattern
