import PacketReplay.Text.Utf8
import PacketReplay.Url.Percent

set_option autoImplicit false

namespace PacketReplay

structure UriReference where
  scheme : Option String
  authority : Option String
  path : String
  query : Option String
  fragment : Option String
deriving DecidableEq

namespace UriReference

def write (r : UriReference) : String :=
  (match r.scheme with
    | some s => s ++ ":"
    | none => "") ++
  (match r.authority with
    | some a => "//" ++ a
    | none => "") ++ r.path ++
  (match r.query with
    | some q => "?" ++ q
    | none => "") ++
  match r.fragment with
    | some f => "#" ++ f
    | none => ""

def isPlain (c : Char) : Bool :=
  c.isAlphanum ||
    ['-', '.', '_', '~', '!', '$', '&', '\'', '(', ')', '*', '+', ',', ';', '='].contains c

def isHexDigit (c : Char) : Bool :=
  c.isDigit || ('a' ≤ c && c ≤ 'f') || ('A' ≤ c && c ≤ 'F')

/-- Whether all characters are plain, others that are allowed, or encoded by a percent sign and two
digits. -/
def allowed (extra : List Char) : List Char → Bool
  | [] => true
  | '%' :: a :: b :: rest => isHexDigit a && isHexDigit b && allowed extra rest
  | c :: rest => (isPlain c || extra.contains c) && allowed extra rest

def isScheme (cs : List Char) : Bool :=
  match cs with
  | [] => false
  | c :: _ => c.isAlpha && cs.all fun c => c.isAlphanum || c == '+' || c == '-' || c == '.'

/-- Whether a text is an authority: maybe a user and an `@`, a host, and maybe a colon and digits.
A host in brackets may hold colons. -/
def isAuthority (cs : List Char) : Bool :=
  let hostPort := (cs.reverse.takeWhile (· != '@')).reverse
  let user := cs.take (cs.length - hostPort.length - 1)
  let port := (hostPort.reverse.takeWhile Char.isDigit).reverse
  let host := match (hostPort.take (hostPort.length - port.length)).reverse with
    | ':' :: host => host.reverse
    | _ => hostPort
  let hostIsFine := match host with
    | '[' :: inner =>
      inner.getLast? == some ']' && inner.length > 1 && allowed [':'] inner.dropLast
    | _ => allowed [] host
  allowed [':'] user && hostIsFine

def cutAt (marks : List Char) (cs : List Char) : List Char × List Char :=
  (cs.takeWhile fun c => !marks.contains c, cs.dropWhile fun c => !marks.contains c)

def afterMark (mark : Char) (cs : List Char) : Option (List Char) :=
  match cs with
  | c :: rest => if c = mark then some rest else none
  | [] => none

/-- Whether a path without a scheme or an authority before it cannot be taken for one: its first
segment has no colon. -/
def startsPlainly (path : List Char) : Bool :=
  !(path.takeWhile (· != '/')).contains ':'

def read? (s : String) : Option UriReference :=
  let cs := s.toList
  let (front, rest) := cutAt [':', '/', '?', '#'] cs
  let (scheme, cs) := match rest with
    | ':' :: rest => if isScheme front then (some front, rest) else (none, cs)
    | _ => (none, cs)
  let (authority, cs) := match cs with
    | '/' :: '/' :: rest => let (a, rest) := cutAt ['/', '?', '#'] rest; (some a, rest)
    | _ => (none, cs)
  let (path, cs) := cutAt ['?', '#'] cs
  let (query, cs) := match afterMark '?' cs with
    | some rest => let (q, rest) := cutAt ['#'] rest; (some q, rest)
    | none => (none, cs)
  let fragment := afterMark '#' cs
  if authority.all isAuthority ∧ allowed [':', '@', '/'] path ∧
      (scheme.isSome ∨ authority.isSome ∨ startsPlainly path) ∧
      query.all (allowed [':', '@', '/', '?']) ∧ fragment.all (allowed [':', '@', '/', '?']) then
    some ⟨scheme.map String.ofList, authority.map String.ofList, String.ofList path,
      query.map String.ofList, fragment.map String.ofList⟩
  else none

def followDots : List String → List String → List String
  | [], done => done
  | s :: rest, done =>
    let done := if s = ".." then done.dropLast else if s = "." then done else done ++ [s]
    followDots rest (if rest.isEmpty ∧ (s = "." ∨ s = "..") then done ++ [""] else done)

def withoutDots (path : String) : String :=
  match path.toList with
  | '/' :: rest =>
    String.join ((followDots ((String.ofList rest).splitOn "/") []).map fun s => "/" ++ s)
  | _ => path

/-- The path of a reference that has a path but no authority, put in place of the last segment of
the base's path. -/
def mergedPath (base : UriReference) (path : String) : String :=
  if path.startsWith "/" then path
  else
    let directory := (base.path.toList.reverse.dropWhile (· != '/')).reverse
    if directory.isEmpty then "/" ++ path else String.ofList directory ++ path

def resolve (base r : UriReference) : UriReference :=
  match r.scheme, r.authority with
  | some _, _ => { r with path := withoutDots r.path }
  | none, some _ => { r with scheme := base.scheme, path := withoutDots r.path }
  | none, none =>
    if r.path = "" then
      { base with query := if r.query.isSome then r.query else base.query, fragment := r.fragment }
    else
      { base with path := withoutDots (mergedPath base r.path), query := r.query,
                  fragment := r.fragment }

end UriReference

end PacketReplay
