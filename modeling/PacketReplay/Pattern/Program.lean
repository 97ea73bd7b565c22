import PacketReplay.Pattern.Tree

/-!
# Programs for matching

A tree as a numbered list of states, each of which says what to look for and where to go on. A
repetition is unrolled, and a program that would take more memory than allowed is refused. The
memory is counted exactly for patterns of single characters, one after another. For others it is
close: states that only join others are left out, and the states of a set with more than ASCII are
not built but allowed for.
-/

set_option autoImplicit false

namespace PacketReplay.Pattern

inductive State where
  | char (s : CharSet) (next : Nat)
  | byte (s : CharSet) (next : Nat)
  | look (l : Look) (next : Nat)
  /-- Goes on in the first of these states that leads to a match. -/
  | choice (nexts : List Nat)
  | save (slot : Nat) (next : Nat)
  | accept

structure Program where
  states : Array State
  start : Nat

structure Builder where
  states : Array State
  size : Nat

def sizeLimit : Nat := 10 * 1024 * 1024

def stateSize : Nat := 32

/-- The bytes of the states around those of a pattern: what passes over the bytes before a match,
unless matches begin at the start only, then the two ends of the whole match, and the match. What
passes over bytes is a choice of two, a set of one range, and a state that joins them. -/
def frameSize (atStart : Bool) : Nat :=
  (if atStart then stateSize else 3 * stateSize + 2 * 4 + 8) + 3 * stateSize

/-- The bytes of a set of bytes or ASCII characters: one state for a single one, else the ranges in
one state and another that joins them. -/
def smallSetSize (s : CharSet) : Nat :=
  match s with
  | [(a, b)] => if a = b then stateSize else 2 * stateSize + 8
  | _ => 2 * stateSize + 8 * s.length

/-- The bytes of a set of code points: one state for each byte of a single one. A larger set with
more than ASCII is turned into states by the bytes of its members, which share their ends. Their
number is not computed: 350 bytes and 70 more for each range is an allowance of this model, so rules
with such sets whose programs come near the limit may be accepted or refused wrongly. -/
def charSetSize (s : CharSet) : Nat :=
  if CharSet.isAscii s then smallSetSize s
  else
    match s with
    | [(a, b)] =>
      if a = b then
        if a < 0x800 then 2 * stateSize else if a < 0x10000 then 3 * stateSize else 4 * stateSize
      else 350 + 70
    | _ => 350 + 70 * s.length

def State.size : State → Nat
  | .char s _ => charSetSize s
  | .byte s _ => smallSetSize s
  | .choice nexts => stateSize + 4 * nexts.length
  | _ => stateSize

namespace Builder

/-- Adds a state, with its number; `none` when the program grows too large. -/
def add (b : Builder) (s : State) : Option (Nat × Builder) :=
  let size := b.size + s.size
  if sizeLimit < size then none else some (b.states.size, ⟨b.states.push s, size⟩)

def put (b : Builder) (number : Nat) (s : State) : Builder :=
  { b with states := b.states.setIfInBounds number s }

/-- A choice between going on and one more alternative, the former first when greedy. -/
def prefer (greedy : Bool) (on other : Nat) : State :=
  .choice (if greedy then [on, other] else [other, on])

/-- A part of a program: where it starts, for the state to go on in. -/
abbrev Part := Nat → Builder → Option (Nat × Builder)

def times (part : Part) : Nat → Part
  | 0, next, b => some (next, b)
  | n + 1, next, b => do
    let (next, b) ← part next b
    times part n next b

/-- A part at most a number of times, each further one inside the one before. -/
def upTo (part : Part) (greedy : Bool) (finish : Nat) : Nat → Part
  | 0, next, b => some (next, b)
  | n + 1, next, b => do
    let (body, b) ← part next b
    let (next, b) ← b.add (prefer greedy body finish)
    upTo part greedy finish n next b

def oneOrMore (part : Part) (greedy : Bool) : Part := fun next b => do
  let (loop, b) ← b.add (prefer greedy next next)
  let (body, b) ← part loop b
  some (body, b.put loop (prefer greedy body next))

/-- A part any number of times. One that can match the empty sequence is taken once or more, or
not at all, which keeps the preferences right. -/
def zeroOrMore (part : Part) (neverEmpty greedy : Bool) : Part := fun next b => do
  if neverEmpty then
    let (loop, b) ← b.add (prefer greedy next next)
    let (body, b) ← part loop b
    some (loop, b.put loop (prefer greedy body next))
  else
    let (body, b) ← oneOrMore part greedy next b
    b.add (prefer greedy body next)

def repetition (part : Part) (neverEmpty : Bool) (min : Nat) (max : Option Nat)
    (greedy : Bool) : Part := fun next b => do
  match max with
  | some max =>
    let (body, b) ← upTo part greedy next (max - min) next b
    times part min body b
  | none =>
    match min with
    | 0 => zeroOrMore part neverEmpty greedy next b
    | n + 1 => do
      let (body, b) ← oneOrMore part greedy next b
      times part n body b

mutual

def ofTree : Tree → Part
  | .empty, next, b => some (next, b)
  | .char s, next, b => b.add (.char s next)
  | .byte s, next, b => b.add (.byte s next)
  | .look l, next, b => b.add (.look l next)
  | .repeated min max greedy inner, next, b =>
    repetition (ofTree inner) inner.neverEmpty min max greedy next b
  | .capture index inner, next, b => do
    let (close, b) ← b.add (.save (2 * index + 1) next)
    let (body, b) ← ofTree inner close b
    b.add (.save (2 * index) body)
  | .sequence parts, next, b => ofSequence parts next b
  | .alternatives branches, next, b => do
    let (starts, b) ← ofBranches branches next b
    b.add (.choice starts)

def ofSequence : List Tree → Part
  | [], next, b => some (next, b)
  | t :: ts, next, b => do
    let (next, b) ← ofSequence ts next b
    ofTree t next b

def ofBranches : List Tree → Nat → Builder → Option (List Nat × Builder)
  | [], _, b => some ([], b)
  | t :: ts, next, b => do
    let (start, b) ← ofTree t next b
    let (starts, b) ← ofBranches ts next b
    some (start :: starts, b)

end

end Builder

def Program.ofTree (t : Tree) : Option Program := do
  let (start, b) ← Builder.ofTree t 0 ⟨#[.accept], frameSize t.atStart⟩
  some ⟨b.states, start⟩

end PacketReplay.Pattern
