set_option autoImplicit false

namespace PacketReplay.Pattern

/-- A set of numbers as closed ranges. -/
abbrev CharSet := List (Nat × Nat)

namespace CharSet

def topChar : Nat := 0x10FFFF

def topByte : Nat := 0xFF

def has (s : CharSet) (n : Nat) : Bool :=
  s.any fun r => r.1 ≤ n && n ≤ r.2

def one (n : Nat) : CharSet := [(n, n)]

/-- Joins ranges given in order of their starts; the first range is being extended. -/
def joinFrom : Nat × Nat → List (Nat × Nat) → CharSet
  | r, [] => [r]
  | r, q :: rest =>
    if q.1 ≤ r.2 + 1 then joinFrom (r.1, max r.2 q.2) rest else r :: joinFrom q rest

def ofRanges (rs : List (Nat × Nat)) : CharSet :=
  match rs.mergeSort fun a b => a.1 ≤ b.1 with
  | [] => []
  | r :: rest => joinFrom r rest

def union (a b : CharSet) : CharSet :=
  ofRanges (a ++ b)

/-- The numbers from `low` to `top` that are in none of the ranges. -/
def complementFrom (top : Nat) : Nat → CharSet → CharSet
  | low, [] => if low ≤ top then [(low, top)] else []
  | low, r :: rest =>
    if low < r.1 then (low, r.1 - 1) :: complementFrom top (r.2 + 1) rest
    else complementFrom top (r.2 + 1) rest

def complement (top : Nat) (s : CharSet) : CharSet :=
  complementFrom top 0 s

def inter (top : Nat) (a b : CharSet) : CharSet :=
  complement top (union (complement top a) (complement top b))

def diff (top : Nat) (a b : CharSet) : CharSet :=
  inter top a (complement top b)

def symmDiff (top : Nat) (a b : CharSet) : CharSet :=
  diff top (union a b) (inter top a b)

def isAscii (s : CharSet) : Bool :=
  s.all fun r => r.2 < 128

/-- The sets that go by a name between `[:` and `:]`. -/
def asciiNamed? : String → Option CharSet
  | "alnum" => some [(48, 57), (65, 90), (97, 122)]
  | "alpha" => some [(65, 90), (97, 122)]
  | "ascii" => some [(0, 127)]
  | "blank" => some [(9, 9), (32, 32)]
  | "cntrl" => some [(0, 31), (127, 127)]
  | "digit" => some [(48, 57)]
  | "graph" => some [(33, 126)]
  | "lower" => some [(97, 122)]
  | "print" => some [(32, 126)]
  | "punct" => some [(33, 47), (58, 64), (91, 96), (123, 126)]
  | "space" => some [(9, 13), (32, 32)]
  | "upper" => some [(65, 90)]
  | "word" => some [(48, 57), (65, 90), (95, 95), (97, 122)]
  | "xdigit" => some [(48, 57), (65, 70), (97, 102)]
  | _ => none

def foldAscii (s : CharSet) : CharSet :=
  let lowers := (inter topByte s [(65, 90)]).map fun r => (r.1 + 32, r.2 + 32)
  let uppers := (inter topByte s [(97, 122)]).map fun r => (r.1 - 32, r.2 - 32)
  union s (lowers ++ uppers)

end CharSet

end PacketReplay.Pattern
