set_option autoImplicit false

namespace PacketReplay

/-- The characters with the Unicode property `White_Space`. -/
def isBlank (c : Char) : Bool :=
  let n := c.toNat
  (9 ≤ n && n ≤ 13) || n == 0x20 || n == 0x85 || n == 0xA0 || n == 0x1680 ||
    (0x2000 ≤ n && n ≤ 0x200A) || n == 0x2028 || n == 0x2029 || n == 0x202F || n == 0x205F ||
    n == 0x3000

def dropBlanks (cs : List Char) : List Char :=
  cs.dropWhile isBlank

def trimBlanks (cs : List Char) : List Char :=
  (dropBlanks (dropBlanks cs).reverse).reverse

def trim (s : String) : String :=
  String.ofList (trimBlanks s.toList)

/-- The words of some characters, given the reversed word read so far. -/
def wordsFrom : List Char → List Char → List (List Char)
  | [], [] => []
  | word, [] => [word.reverse]
  | word, c :: cs =>
    if isBlank c then
      match word with
      | [] => wordsFrom [] cs
      | _ => word.reverse :: wordsFrom [] cs
    else wordsFrom (c :: word) cs

def words (s : String) : List String :=
  (wordsFrom [] s.toList).map String.ofList

def sameIgnoringCase (a b : String) : Bool :=
  a.toList.map Char.toLower == b.toList.map Char.toLower

def stripFront? {α : Type} [DecidableEq α] : List α → List α → Option (List α)
  | [], xs => some xs
  | _ :: _, [] => none
  | p :: ps, x :: xs => if p = x then stripFront? ps xs else none

/-- Replaces from the front, skipping the `skip` elements that a match has already covered.
The pattern is given as its head and tail, so it is never empty. -/
def replaceFrom {α : Type} [DecidableEq α] (p : α) (ps value : List α) : Nat → List α → List α
  | _, [] => []
  | skip + 1, _ :: xs => replaceFrom p ps value skip xs
  | 0, x :: xs =>
    match stripFront? (p :: ps) (x :: xs) with
    | some _ => value ++ replaceFrom p ps value ps.length xs
    | none => x :: replaceFrom p ps value 0 xs

/-- Every leftmost non-overlapping occurrence of `pattern` replaced by `value`. An empty pattern
occurs nowhere. -/
def replaceAll {α : Type} [DecidableEq α] (pattern value xs : List α) : List α :=
  match pattern with
  | [] => xs
  | p :: ps => replaceFrom p ps value 0 xs

/-- Replacing as a loop of at most `n` rounds. Each looks at the front of what is left of the
sequence: it writes the value and goes on after the match, or it copies one element. An empty
pattern keeps the loop in its place, and `none` says that the rounds did not suffice. -/
def scan? {α : Type} [DecidableEq α] (pattern value : List α) :
    Nat → List α → List α → Option (List α)
  | _, [], out => some out
  | 0, _ :: _, _ => none
  | n + 1, x :: xs, out =>
    if pattern <+: x :: xs then
      scan? pattern value n ((x :: xs).drop pattern.length) (out ++ value)
    else scan? pattern value n xs (out ++ [x])

def replaceText (pattern value s : String) : String :=
  String.ofList (replaceAll pattern.toList value.toList s.toList)

end PacketReplay
