import PacketReplay.Text.Basic
import PacketReplay.Pattern.Search
import PacketReplay.Pattern.Template

set_option autoImplicit false

namespace PacketReplay

structure Regex where
  subject : Pattern.Subject
  tree : Pattern.Tree
  program : Pattern.Program
  names : List (String × Nat)

namespace Regex

open Pattern

/-- The pattern a text writes; `none` when it is not well formed or too large. -/
def compile (subject : Subject) (text : String) : Option Regex := do
  let parsed ← Pattern.parse text
  let (tree, _) ← treeOf subject Flags.initial parsed.pattern
  let program ← Program.ofTree tree
  some ⟨subject, tree, program, parsed.names⟩

def asciiChar? : Tree → Option UInt8
  | .char [(a, b)] => if a = b ∧ a < 128 then some a.toUInt8 else none
  | _ => none

def literal? : Tree → Option Bytes
  | .sequence (t :: ts) => (t :: ts).mapM asciiChar?
  | t => (asciiChar? t).map fun b => [b]

def findBytes (needle : Bytes) : Nat → Bytes → Option Nat
  | i, [] => if needle.isEmpty then some i else none
  | i, b :: rest =>
    if (stripFront? needle (b :: rest)).isSome then some i else findBytes needle (i + 1) rest

def find (r : Regex) (h : Array UInt8) (i : Nat) : Option Match :=
  match literal? r.tree with
  | some needle =>
    (findBytes needle i (h.extract i h.size).toList).map fun start =>
      ⟨start, start + needle.length, []⟩
  | none => r.program.find r.subject h i

/-- The next match, given where the last one ended: an empty match there is passed over. -/
def next (r : Regex) (h : Array UInt8) (last : Option Nat) : Option Match :=
  match last with
  | none => r.find h 0
  | some i =>
    match r.find h i with
    | some m => if m.start = m.stop ∧ m.stop = i then r.find h (i + 1) else some m
    | none => none

def groupBytes (h : Array UInt8) (m : Match) (index : Nat) : Bytes :=
  match m.group? index with
  | some (a, b) => (h.extract a b).toList
  | none => []

def expand (r : Regex) (h : Array UInt8) (m : Match) (pieces : List Piece) : Bytes :=
  pieces.flatMap fun
    | .byte b => [b]
    | .number n => groupBytes h m n
    | .name s =>
      match r.names.lookup s with
      | some n => groupBytes h m n
      | none => []

/-- Replaces the matches after one that ended at a position, with at most `fuel` matches. -/
def replaceFrom (r : Regex) (h : Array UInt8) (pieces : List Piece) :
    Nat → Option Nat → Bytes
  | 0, last => (h.extract (last.getD 0) h.size).toList
  | fuel + 1, last =>
    match r.next h last with
    | none => (h.extract (last.getD 0) h.size).toList
    | some m =>
      (h.extract (last.getD 0) m.start).toList ++ r.expand h m pieces ++
        r.replaceFrom h pieces fuel (some m.stop)

def replaceAll (r : Regex) (value h : Bytes) : Bytes :=
  r.replaceFrom h.toArray (template value) (h.length + 1) none

end Regex

end PacketReplay
