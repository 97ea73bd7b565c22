import PacketReplay.Text.Basic
import PacketReplay.Text.Base64
import PacketReplay.Pattern.CharSet
import PacketReplay.Pattern.Unicode.Category
import PacketReplay.Pattern.Unicode.Script
import PacketReplay.Pattern.Unicode.ScriptExtension
import PacketReplay.Pattern.Unicode.Binary
import PacketReplay.Pattern.Unicode.Fold

set_option autoImplicit false

namespace PacketReplay.Pattern.Unicode

/-- The ranges that gaps and lengths alternate to write, from a position on. -/
def rangesFrom : Nat → List Nat → CharSet
  | origin, gap :: length :: rest =>
    (origin + gap, origin + gap + length) :: rangesFrom (origin + gap + length + 1) rest
  | _, _ => []

def unpackSet (s : String) : CharSet :=
  rangesFrom 0 (Packed.unpack s)

def normalName (cs : List Char) : String :=
  let kept (cs : List Char) :=
    (cs.filter fun c => c != ' ' && c != '_' && c != '-' && c.toNat < 128).map Char.toLower
  match cs with
  | a :: b :: rest =>
    if a.toLower = 'i' ∧ b.toLower = 's' then
      if kept rest = ['c'] then "isc" else String.ofList (kept rest)
    else String.ofList (kept cs)
  | _ => String.ofList (kept cs)

def find? (table : List (List String × String)) (name : String) : Option CharSet :=
  (table.find? fun e => e.1.contains name).map fun e => unpackSet e.2

/-- The set of a general category that is not a union of others; empty when there is none. -/
def category (name : String) : CharSet :=
  (find? generalCategories name).getD []

def categories (names : List String) : CharSet :=
  CharSet.ofRanges (names.flatMap category)

def generalCategory? (name : String) : Option CharSet :=
  match name with
  | "any" => some [(0, CharSet.topChar)]
  | "ascii" => some [(0, 127)]
  | "assigned" => some (CharSet.complement CharSet.topChar (category "cn"))
  | "lc" | "casedletter" => some (categories ["lu", "ll", "lt"])
  | "l" | "letter" => some (categories ["lu", "ll", "lt", "lm", "lo"])
  | "m" | "mark" | "combiningmark" => some (categories ["mn", "mc", "me"])
  | "n" | "number" => some (categories ["nd", "nl", "no"])
  | "p" | "punctuation" | "punct" => some (categories ["pc", "pd", "ps", "pe", "pi", "pf", "po"])
  | "s" | "symbol" => some (categories ["sm", "sc", "sk", "so"])
  | "z" | "separator" => some (categories ["zs", "zl", "zp"])
  | "c" | "other" => some (categories ["cc", "cf", "cn", "co"])
  | _ => find? generalCategories name

def script? (name : String) : Option CharSet :=
  find? scripts name

/-- The set of a script with the characters it shares with others. -/
def scriptExtension? (name : String) : Option CharSet :=
  match find? scriptExtensions name with
  | some s => some s
  | none => script? name

/-- The set that one name stands for: a binary property, else a general category, else a script.
Three short names are never properties. -/
def named? (name : String) : Option CharSet :=
  let property := if name = "cf" ∨ name = "sc" ∨ name = "lc" then none
    else find? binaryProperties name
  match property with
  | some s => some s
  | none =>
    match generalCategory? name with
    | some s => some s
    | none => script? name

def valued? (property value : String) : Option CharSet :=
  match property with
  | "gc" | "generalcategory" => generalCategory? value
  | "sc" | "script" => script? value
  | "scx" | "scriptextensions" => scriptExtension? value
  | _ => none

def digits : CharSet := category "nd"

def blanks : CharSet := (find? binaryProperties "whitespace").getD []

def wordChars : CharSet :=
  CharSet.ofRanges ((find? binaryProperties "alphabetic").getD [] ++
    categories ["mn", "mc", "me", "nd", "pc"] ++ (find? binaryProperties "joincontrol").getD [])

def letters : CharSet := (find? binaryProperties "alphabetic").getD []

def lettersAndNumbers : CharSet :=
  CharSet.ofRanges (letters ++ categories ["nd", "nl", "no"])

def membersFrom : Nat → Nat → List Nat → List Nat × List Nat
  | 0, _, rest => ([], rest)
  | _ + 1, _, [] => ([], [])
  | count + 1, last, gap :: rest =>
    let (members, rest) := membersFrom count (last + gap + 1) rest
    ((last + gap + 1) :: members, rest)

def groupsFrom : Nat → Nat → List Nat → List (List Nat)
  | fuel + 1, origin, gap :: size :: rest =>
    let (members, rest) := membersFrom (size + 1) (origin + gap) rest
    ((origin + gap) :: members) :: groupsFrom fuel (origin + gap + 1) rest
  | _, _, _ => []

def foldGroups : List (List Nat) :=
  let numbers := Packed.unpack foldGroupsPacked
  groupsFrom numbers.length 0 numbers

def foldCase (s : CharSet) : CharSet :=
  CharSet.ofRanges (s ++ (foldGroups.filter fun g => g.any s.has).flatMap fun g =>
    g.map fun n => (n, n))

end PacketReplay.Pattern.Unicode
