import PacketReplay.Json.Reader
import PacketReplay.Pattern.Property
import PacketReplay.Pattern.Syntax

set_option autoImplicit false

namespace PacketReplay.Pattern

/-- Drops blanks and comments; the flag says whether a comment is open. -/
def dropIgnored : Bool → List Char → List Char
  | _, [] => []
  | true, c :: cs => dropIgnored (c != '\n') cs
  | false, c :: cs =>
    if isBlank c then dropIgnored false cs
    else if c = '#' then dropIgnored true cs
    else c :: cs

def skip (ignore : Bool) (cs : List Char) : List Char :=
  if ignore then dropIgnored false cs else cs

def isMeta (c : Char) : Bool :=
  "\\.+*?()|[]\x7b\x7d^$#&-~".toList.contains c

def isEscapable (c : Char) : Bool :=
  isMeta c || (c.toNat < 128 && !c.isAlphanum && c != '<' && c != '>')

inductive Escaped where
  | literal (l : Literal)
  | letter (c : LetterClass) (negated : Bool)
  | property (s : CharSet) (negated : Bool)
  | assertion (a : Assertion)

def charOf? (n : Nat) : Option Char :=
  if h : n.isValidChar then some (Char.ofNatAux n h) else none

def readHexDigits (ignore : Bool) : Nat → Nat → List Char → Option (Nat × List Char)
  | 0, value, cs => some (value, cs)
  | _ + 1, _, [] => none
  | count + 1, value, c :: cs => do
    let d ← Json.hexDigit? c
    readHexDigits ignore count (value * 16 + d) (skip ignore cs)

def readHexBraced (ignore : Bool) : Nat → Nat → Nat → List Char → Option (Nat × List Char)
  | 0, _, _, _ => none
  | fuel + 1, count, value, cs =>
    match cs with
    | [] => none
    | '\x7d' :: rest => if count = 0 then none else some (value, skip ignore rest)
    | c :: rest => do
      let d ← Json.hexDigit? c
      readHexBraced ignore fuel (count + 1) (value * 16 + d) (skip ignore rest)

def readHex (ignore : Bool) (digits : Nat) (cs : List Char) : Option (Escaped × List Char) :=
  match skip ignore cs with
  | '\x7b' :: rest => do
    let rest := skip ignore rest
    let (n, rest) ← readHexBraced ignore (rest.length + 1) 0 0 rest
    some (.literal ⟨← charOf? n, false⟩, rest)
  | cs => do
    let (n, rest) ← readHexDigits ignore digits 0 cs
    some (.literal ⟨← charOf? n, digits = 2⟩, rest)

def readPropertyName (ignore : Bool) : Nat → List Char → List Char →
    Option (List Char × List Char)
  | 0, _, _ => none
  | fuel + 1, acc, cs =>
    match cs with
    | [] => none
    | '\x7d' :: rest => some (acc.reverse, rest)
    | c :: rest => readPropertyName ignore fuel (c :: acc) (skip ignore rest)

/-- Splits a property's text at the first separator, if any: `!=` anywhere, else `:`, else `=`. The
flag says whether the separator negates. -/
def splitProperty (cs : List Char) : Option (List Char × Bool × List Char) :=
  let rec find (separator : List Char) (before : List Char) :
      List Char → Option (List Char × List Char)
    | [] => none
    | c :: rest =>
      if separator.isPrefixOf (c :: rest) then
        some (before.reverse, (c :: rest).drop separator.length)
      else find separator (c :: before) rest
  match find ['!', '='] [] cs with
  | some (a, b) => some (a, true, b)
  | none =>
    match find [':'] [] cs with
    | some (a, b) => some (a, false, b)
    | none => (find ['='] [] cs).map fun (a, b) => (a, false, b)

def propertySet? (cs : List Char) : Option (CharSet × Bool) :=
  match splitProperty cs with
  | some (name, negated, value) =>
    (Unicode.valued? (Unicode.normalName name) (Unicode.normalName value)).map (·, negated)
  | none => (Unicode.named? (Unicode.normalName cs)).map (·, false)

def readProperty (ignore negated : Bool) (cs : List Char) : Option (Escaped × List Char) :=
  match skip ignore cs with
  | [] => none
  | '\x7b' :: rest => do
    let rest := skip ignore rest
    let (name, rest) ← readPropertyName ignore (rest.length + 1) [] rest
    let (s, unequal) ← propertySet? name
    some (.property s (negated != unequal), rest)
  | '\\' :: _ => none
  | c :: rest => do
    let (s, _) ← (Unicode.named? (Unicode.normalName [c])).map (·, false)
    some (.property s negated, skip ignore rest)

def readWordName (ignore : Bool) : Nat → List Char → List Char → List Char × List Char
  | 0, acc, cs => (acc.reverse, cs)
  | fuel + 1, acc, cs =>
    match cs with
    | c :: rest =>
      if c.isAlpha || c == '-' then readWordName ignore fuel (c :: acc) (skip ignore rest)
      else (acc.reverse, c :: rest)
    | [] => (acc.reverse, [])

/-- Reads what may follow `\b`: the name of one side of a word in braces. Braces that start with
neither a letter nor a hyphen are left for a repetition. -/
def readBoundary (ignore : Bool) (cs : List Char) : Option (Escaped × List Char) :=
  match cs with
  | '\x7b' :: rest =>
    match skip ignore rest with
    | [] => none
    | c :: rest' =>
      if c.isAlpha || c == '-' then
        match readWordName ignore (rest'.length + 1) [] (c :: rest') with
        | (name, '\x7d' :: after) =>
          match String.ofList name with
          | "start" => some (.assertion .wordStart, after)
          | "end" => some (.assertion .wordEnd, after)
          | "start-half" => some (.assertion .wordStartHalf, after)
          | "end-half" => some (.assertion .wordEndHalf, after)
          | _ => none
        | _ => none
      else some (.assertion .wordBoundary, cs)
  | _ => some (.assertion .wordBoundary, cs)

def readEscape (ignore : Bool) (cs : List Char) : Option (Escaped × List Char) :=
  match cs with
  | [] => none
  | c :: rest =>
    let literal (c : Char) : Option (Escaped × List Char) := some (.literal ⟨c, false⟩, rest)
    let assertion (a : Assertion) : Option (Escaped × List Char) := some (.assertion a, rest)
    match c with
    | 'x' => readHex ignore 2 rest
    | 'u' => readHex ignore 4 rest
    | 'U' => readHex ignore 8 rest
    | 'p' => readProperty ignore false rest
    | 'P' => readProperty ignore true rest
    | 'd' => some (.letter .digit false, rest)
    | 'D' => some (.letter .digit true, rest)
    | 's' => some (.letter .space false, rest)
    | 'S' => some (.letter .space true, rest)
    | 'w' => some (.letter .word false, rest)
    | 'W' => some (.letter .word true, rest)
    | 'a' => literal '\x07'
    | 'f' => literal '\x0c'
    | 't' => literal '\t'
    | 'n' => literal '\n'
    | 'r' => literal '\r'
    | 'v' => literal '\x0b'
    | 'A' => assertion .startText
    | 'z' => assertion .endText
    | 'B' => assertion .notWordBoundary
    | '<' => assertion .wordStart
    | '>' => assertion .wordEnd
    | 'b' => readBoundary ignore rest
    | c => if isEscapable c then literal c else none

end PacketReplay.Pattern
