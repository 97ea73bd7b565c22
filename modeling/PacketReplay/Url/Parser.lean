import PacketReplay.Url.Basic
import PacketReplay.Url.Domain
import PacketReplay.Url.Percent

set_option autoImplicit false

namespace PacketReplay.Url

/-- The text that is read: without control characters and spaces around, and without tabs and line
ends. -/
def cleaned (s : String) : List Char :=
  let isEdge (c : Char) : Bool := c.toNat ≤ 0x20
  let inner := ((s.toList.dropWhile isEdge).reverse.dropWhile isEdge).reverse
  inner.filter fun c => c != '\t' && c != '\n' && c != '\r'

def isSchemeChar (c : Char) : Bool :=
  c.isAlphanum || c == '+' || c == '-' || c == '.'

def splitScheme? (cs : List Char) : Option (String × List Char) :=
  match cs with
  | [] => none
  | c :: _ =>
    if c.isAlpha then
      match cs.dropWhile isSchemeChar with
      | ':' :: rest => some (String.ofList ((cs.takeWhile isSchemeChar).map Char.toLower), rest)
      | _ => none
    else none

def isSlash (kind : SchemeKind) (c : Char) : Bool :=
  c == '/' || (c == '\\' && kind.isSpecial)

def endsAuthority (kind : SchemeKind) (c : Char) : Bool :=
  isSlash kind c || c == '?' || c == '#'

def readSpecialHost (cs : List Char) : Except UrlFault Host :=
  match cs with
  | '[' :: rest =>
    if cs.getLast? = some ']' then
      match Ipv6.read? rest.dropLast with
      | some pieces => .ok (.ipv6 pieces)
      | none => .error .badIpv6
    else .error .badIpv6
  | _ =>
    match Domain.toAscii? (Percent.decode (textBytes (String.ofList cs))) with
    | none => .error .badDomain
    | some "" => .error .emptyHost
    | some name =>
      if Ipv4.isRequired name.toList then
        match Ipv4.read? name.toList with
        | some a => .ok (.ipv4 a)
        | none => .error .badIpv4
      else .ok (.domain name)

def isForbiddenInHost (c : Char) : Bool :=
  ['\x00', '\t', '\n', '\r', ' ', '#', '/', ':', '<', '>', '?', '@', '[', '\\', ']', '^',
    '|'].contains c

/-- The host of a scheme that is not special: in brackets, or any text. -/
def readPlainHost (cs : List Char) : Except UrlFault Host :=
  match cs with
  | '[' :: _ => readSpecialHost cs
  | _ =>
    if cs.any isForbiddenInHost then .error .badHostCharacter
    else .ok (.domain (Percent.encode Percent.isControl cs))

/-- The characters of the host, up to a colon outside brackets, and what follows. -/
def splitHost : Bool → List Char → List Char × List Char
  | _, [] => ([], [])
  | inBrackets, c :: cs =>
    if c == ':' && !inBrackets then ([], c :: cs)
    else
      let inBrackets := if c == '[' then true else if c == ']' then false else inBrackets
      let (host, rest) := splitHost inBrackets cs
      (c :: host, rest)

def readDigits (cs : List Char) : Except UrlFault Nat :=
  cs.foldlM (fun n c =>
    if c.isDigit then
      let n := n * 10 + (c.toNat - 48)
      if 65535 < n then .error .badPort else .ok n
    else .error .badPort) 0

/-- The port after a host, unless it is missing or the scheme's own. -/
def readPort (kind : SchemeKind) (cs : List Char) : Except UrlFault (Option Nat) :=
  match cs with
  | ':' :: digits => do
    let n ← readDigits digits
    return if digits.isEmpty ∨ kind = .special n then none else some n
  | _ => .ok none

/-- The characters before the last `@`, if there is one, and those after it. -/
def splitUserinfo (cs : List Char) : Option (List Char) × List Char :=
  match cs.reverse.dropWhile (· != '@') with
  | [] => (none, cs)
  | _ :: before => (some before.reverse, (cs.reverse.takeWhile (· != '@')).reverse)

def readUserinfo (cs : List Char) : String × String :=
  let encode := Percent.encode Percent.inUserinfo
  (encode (cs.takeWhile (· != ':')), encode ((cs.dropWhile (· != ':')).drop 1))

/-- An authority: who asks, the host and the port. It may be the end of the URL. -/
def readAuthority (kind : SchemeKind) (isEnd : Bool) (cs : List Char) :
    Except UrlFault (String × String × Host × Option Nat) := do
  let (userinfo, cs) := splitUserinfo cs
  let (host, rest) := splitHost false cs
  if userinfo = some [] ∧ cs.isEmpty ∧ !isEnd then throw .emptyHost
  if host.isEmpty ∧ (kind.isSpecial ∨ !rest.isEmpty) then throw .emptyHost
  let read ← if kind.isSpecial then readSpecialHost host else readPlainHost host
  let port ← readPort kind rest
  let (username, password) := readUserinfo (userinfo.getD [])
  if read = .domain "" ∧ (username ≠ "" ∨ password ≠ "") then throw .emptyHost
  return (username, password, read, port)

def isSingleDot (s : String) : Bool :=
  s == "." || s.toLower == "%2e"

def isDoubleDot (s : String) : Bool :=
  s == ".." || [".%2e", "%2e.", "%2e%2e"].contains s.toLower

def isDriveLetter (s : String) : Bool :=
  match s.toList with
  | [c, d] => c.isAlpha && (d == ':' || d == '|')
  | _ => false

def cutSegments (kind : SchemeKind) : List Char → List (List Char)
  | [] => [[]]
  | c :: cs =>
    if isSlash kind c then [] :: cutSegments kind cs
    else
      match cutSegments kind cs with
      | [] => [[c]]
      | s :: rest => (c :: s) :: rest

/-- Drops the last segment, but not the only one when it is a drive letter of a file. -/
def shorten (kind : SchemeKind) (parts : List String) : List String :=
  match kind, parts with
  | .file, [s] => if isDriveLetter s then [s] else []
  | _, _ => parts.dropLast

/-- Adds segments one after another, following dots. The last segment may be a directory. -/
def addSegments (kind : SchemeKind) : List (List Char) → List String → List String
  | [], parts => parts
  | cs :: rest, parts =>
    let s := Percent.encode Percent.inPath cs
    let parts :=
      if isDoubleDot s then
        if rest.isEmpty then shorten kind parts ++ [""] else shorten kind parts
      else if isSingleDot s then
        if rest.isEmpty then parts ++ [""] else parts
      else if kind = .file ∧ parts.isEmpty ∧ isDriveLetter s then
        parts ++ [String.ofList (s.toList.take 1 ++ [':'])]
      else parts ++ [s]
    addSegments kind rest parts

def readSegments (kind : SchemeKind) (cs : List Char) : List String :=
  addSegments kind (cutSegments kind cs) []

/-- The segments of a file's path: empty ones in front are dropped. -/
def readFileSegments (cs : List Char) : List String :=
  let cs := match cs with
    | c :: rest => if isSlash .file c then rest else cs
    | [] => []
  match (readSegments .file cs).dropWhile (· == "") with
  | [] => [""]
  | parts => parts

def readQueryFragment (kind : SchemeKind) (cs : List Char) : Option String × Option String :=
  let set := if kind.isSpecial then Percent.inSpecialQuery else Percent.inQuery
  let fragment := match cs.dropWhile (· != '#') with
    | [] => none
    | _ :: rest => some (Percent.encode Percent.inFragment rest)
  match cs with
  | '?' :: rest => (some (Percent.encode set (rest.takeWhile (· != '#'))), fragment)
  | _ => (none, fragment)

def endsPath (c : Char) : Bool :=
  c == '?' || c == '#'

def readHierarchical (scheme : String) (kind : SchemeKind) (cs : List Char) :
    Except UrlFault Url := do
  let authority := cs.takeWhile fun c => !endsAuthority kind c
  let rest := cs.dropWhile fun c => !endsAuthority kind c
  let (username, password, host, port) ← readAuthority kind rest.isEmpty authority
  let pathChars := rest.takeWhile fun c => !endsPath c
  let parts := match pathChars with
    | _ :: path => readSegments kind path
    | [] => if kind.isSpecial then [""] else []
  let (query, fragment) := readQueryFragment kind (rest.dropWhile fun c => !endsPath c)
  return { scheme, username, password, host := some host, port, path := .segments parts, query,
           fragment }

def readPlain (scheme : String) (cs : List Char) : Url :=
  let pathChars := cs.takeWhile fun c => !endsPath c
  let path := match pathChars with
    | '/' :: rest => UrlPath.segments (readSegments .other rest)
    | _ => .plain (Percent.encode Percent.isControl pathChars)
  let (query, fragment) := readQueryFragment .other (cs.dropWhile fun c => !endsPath c)
  { scheme, username := "", password := "", host := none, port := none, path, query, fragment }

/-- The host of a file, unless the place of the host holds a drive letter. This machine has no
name. -/
def readFileHost (cs : List Char) : Except UrlFault (Host × List Char) :=
  let name := cs.takeWhile fun c => !endsAuthority .file c
  let rest := cs.dropWhile fun c => !endsAuthority .file c
  if isDriveLetter (String.ofList name) then .ok (.domain "", cs)
  else if name.isEmpty then .ok (.domain "", rest)
  else do
    let host ← readSpecialHost name
    return (if host = .domain "localhost" then .domain "" else host, rest)

def readFile (cs : List Char) : Except UrlFault Url := do
  let (host, rest) ← match cs with
    | a :: b :: rest =>
      if isSlash .file a && isSlash .file b then readFileHost rest
      else pure (.domain "", cs)
    | _ => pure (.domain "", cs)
  let parts := readFileSegments (rest.takeWhile fun c => !endsPath c)
  let host := if parts.head?.any isDriveLetter then .domain "" else host
  let (query, fragment) := readQueryFragment .file (rest.dropWhile fun c => !endsPath c)
  return { scheme := "file", username := "", password := "", host := some host, port := none,
           path := .segments parts, query, fragment }

def parse (s : String) : Except UrlFault Url :=
  match splitScheme? (cleaned s) with
  | none => .error .relative
  | some (scheme, rest) =>
    match SchemeKind.ofScheme scheme with
    | .file => readFile rest
    | .special port =>
      readHierarchical scheme (.special port) (rest.dropWhile (isSlash (.special port)))
    | .other =>
      match rest with
      | '/' :: '/' :: rest => readHierarchical scheme .other rest
      | _ => .ok (readPlain scheme rest)

end PacketReplay.Url
