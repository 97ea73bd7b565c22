import Std.Data.HashSet
import PacketReplay.Text.Utf8
import PacketReplay.Pattern.Program

/-!
# Searching

Finds the leftmost match of a program, and of those that start there the one its alternatives and
repetitions prefer. The search goes depth first and never enters a state at a position twice: what
failed there once fails again. So each start takes a number of steps that is bounded by the size of
the program times the length of the subject.
-/

set_option autoImplicit false

namespace PacketReplay.Pattern

def frontAt (h : Array UInt8) (i : Nat) : Utf8.Front :=
  Utf8.front (h.extract i (i + 4)).toList

/-- Where the last code point before a position may start, at most `fuel` bytes further back. -/
def leadBefore (h : Array UInt8) : Nat → Nat → Nat
  | 0, i => i
  | fuel + 1, i =>
    match h[i]? with
    | some b => if Utf8.isTail b && i != 0 then leadBefore h fuel (i - 1) else i
    | none => i

/-- What stands just before a position: the code point found by stepping back over tail bytes. -/
def frontBefore (h : Array UInt8) (i : Nat) : Utf8.Front :=
  if i = 0 then .done else Utf8.front (h.extract (leadBefore h 3 (i - 1)) i).toList

/-- Whether a code point that was read is a word character; `none` when it is ill formed. -/
def isWordFront : Utf8.Front → Option Bool
  | .char c _ => some (Unicode.wordChars.has c.toNat)
  | .broken _ => none
  | .done => some false

def isWordByte (b : Option UInt8) : Bool :=
  match b with
  | some b => (48 ≤ b && b ≤ 57) || (65 ≤ b && b ≤ 90) || b == 95 || (97 ≤ b && b ≤ 122)
  | none => false

def wordsAround (h : Array UInt8) (unicode : Bool) (i : Nat) : Option Bool × Option Bool :=
  if unicode then (isWordFront (frontBefore h i), isWordFront (frontAt h i))
  else (some (i != 0 && isWordByte h[i - 1]?), some (isWordByte h[i]?))

/-- Whether a condition holds at a position. Ill-formed bytes count as no word characters, except
that the conditions which ask for no word character there then fail. -/
def Look.holds (h : Array UInt8) (i : Nat) : Look → Bool
  | .start => i == 0
  | .finish => i == h.size
  | .lineStart => i == 0 || h[i - 1]? == some 10
  | .lineEnd => i == h.size || h[i]? == some 10
  | .crlfStart =>
    i == 0 || h[i - 1]? == some 10 || (h[i - 1]? == some 13 && h[i]? != some 10)
  | .crlfEnd =>
    i == h.size || h[i]? == some 13 || (h[i]? == some 10 && (i == 0 || h[i - 1]? != some 13))
  | .boundary u =>
    let (a, b) := wordsAround h u i
    a.getD false != b.getD false
  | .notBoundary u =>
    match wordsAround h u i with
    | (some a, some b) => a == b
    | _ => false
  | .wordStart u =>
    let (a, b) := wordsAround h u i
    !a.getD false && b.getD false
  | .wordEnd u =>
    let (a, b) := wordsAround h u i
    a.getD false && !b.getD false
  | .wordStartHalf u => (wordsAround h u i).1 == some false
  | .wordEndHalf u => (wordsAround h u i).2 == some false

/-- Positions noted in slots, the latest first. -/
abbrev Slots := List (Nat × Nat)

structure Thread where
  state : Nat
  position : Nat
  slots : Slots

/-- The threads that continue one thread in its state, the preferred one first; `none` at a
match. -/
def Program.step (p : Program) (h : Array UInt8) (t : Thread) : Option (List Thread) :=
  match p.states[t.state]? with
  | some (.char s next) =>
    match frontAt h t.position with
    | .char c size => some (if s.has c.toNat then [⟨next, t.position + size, t.slots⟩] else [])
    | _ => some []
  | some (.byte s next) =>
    match h[t.position]? with
    | some b => some (if s.has b.toNat then [⟨next, t.position + 1, t.slots⟩] else [])
    | none => some []
  | some (.look l next) =>
    some (if l.holds h t.position then [⟨next, t.position, t.slots⟩] else [])
  | some (.choice nexts) => some (nexts.map fun next => ⟨next, t.position, t.slots⟩)
  | some (.save slot next) => some [⟨next, t.position, (slot, t.position) :: t.slots⟩]
  | some .accept => none
  | none => some []

/-- The pairs of state and position that have been entered, as single numbers. -/
abbrev Visited := Std.HashSet Nat

/-- Runs threads depth first until one reaches a match. -/
def Program.explore (p : Program) (h : Array UInt8) :
    Nat → List Thread → Visited → Option Thread × Visited
  | 0, _, visited => (none, visited)
  | _ + 1, [], visited => (none, visited)
  | fuel + 1, t :: ts, visited =>
    let key := t.state * (h.size + 1) + t.position
    if visited.contains key then p.explore h fuel ts visited
    else
      match p.step h t with
      | none => (some t, visited)
      | some more => p.explore h fuel (more ++ ts) (visited.insert key)

def Program.edges (p : Program) : Nat :=
  p.states.foldl (fun n s => n + match s with
    | .choice nexts => nexts.length
    | _ => 1) 0

structure Match where
  start : Nat
  stop : Nat
  slots : Slots

def Match.group? (m : Match) (index : Nat) : Option (Nat × Nat) :=
  if index = 0 then some (m.start, m.stop)
  else do some (← m.slots.lookup (2 * index), ← m.slots.lookup (2 * index + 1))

/-- Whether a match may start at a position: in text, not inside a code point. -/
def mayStart (subject : Subject) (h : Array UInt8) (i : Nat) : Bool :=
  match subject with
  | .bytes => true
  | .text => !(h[i]?.any Utf8.isTail)

def Program.findFrom (p : Program) (subject : Subject) (h : Array UInt8) (fuel : Nat) :
    Nat → Nat → Visited → Option Match
  | 0, _, _ => none
  | count + 1, i, visited =>
    if mayStart subject h i then
      match p.explore h fuel [⟨p.start, i, []⟩] visited with
      | (some t, _) => some ⟨i, t.position, t.slots⟩
      | (none, visited) => p.findFrom subject h fuel count (i + 1) visited
    else p.findFrom subject h fuel count (i + 1) visited

def Program.find (p : Program) (subject : Subject) (h : Array UInt8) (i : Nat) : Option Match :=
  p.findFrom subject h ((h.size + 1) * p.edges + 2) (h.size + 1 - i) i Std.HashSet.emptyWithCapacity

end PacketReplay.Pattern
