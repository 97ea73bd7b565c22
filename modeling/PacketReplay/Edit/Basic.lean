import PacketReplay.Error
import PacketReplay.Packet.Header
import PacketReplay.Pattern.Regex

set_option autoImplicit false

namespace PacketReplay

structure Rule where
  /-- What to edit: `header:<Name>`, `url`, `body` or `method`. -/
  target : String
  /-- What to do: `set`, `add`, `remove`, `replace` or `regex_replace`. -/
  operation : String
  value : Option String
  pattern : Option String
deriving DecidableEq

namespace Rule

def setHeader (name value : String) : Rule :=
  ⟨"header:" ++ name, "set", some value, none⟩

def addHeader (name value : String) : Rule :=
  ⟨"header:" ++ name, "add", some value, none⟩

def removeHeader (name : String) : Rule :=
  ⟨"header:" ++ name, "remove", none, none⟩

end Rule

/-- What adding a header does when its name is already there. -/
inductive Policy where
  | replaceExisting
  | allowDuplicates
deriving DecidableEq

def Policy.ofAllow (allow : Bool) : Policy :=
  if allow then .allowDuplicates else .replaceExisting

/-- A rule after it has been checked. -/
inductive Edit where
  | setHeader (name value : String)
  | addHeader (name value : String)
  | removeHeader (name : String)
  | setUrl (url : String)
  | replaceInUrl (pattern value : String)
  | regexInUrl (regex : Regex) (value : String)
  | setBody (body : Bytes)
  | appendBody (extra : Bytes)
  | removeBody
  | replaceInBody (pattern value : Bytes)
  | regexInBody (regex : Regex) (value : Bytes)
  | setMethod (method : Method)

def Operation.parse (text : String) : Option Operation :=
  match (trim text).toLower with
  | "set" => some .set
  | "add" => some .add
  | "remove" => some .remove
  | "replace" => some .replace
  | "regex_replace" => some .regexReplace
  | _ => none

def splitColon : List Char → Option (List Char × List Char)
  | [] => none
  | ':' :: rest => some ([], rest)
  | c :: rest => (splitColon rest).map fun (a, b) => (c :: a, b)

inductive Target where
  | header (name : String)
  | url
  | body
  | method
deriving DecidableEq

/-- The target a text names, in any case and with blanks around. -/
def Target.parse (text : String) : Option Target :=
  let t := trim text
  let plain : Option Target :=
    match t.toLower with
    | "url" => some .url
    | "body" => some .body
    | "method" => some .method
    | _ => none
  match splitColon t.toList with
  | some (kind, name) =>
    if sameIgnoringCase (String.ofList kind) "header" then
      some (.header (String.ofList (trimBlanks name)))
    else plain
  | none => plain

namespace Rule

def needValue (r : Rule) : Except RuleFault String :=
  match r.value with
  | some v => .ok v
  | none => .error (.missingValue r.operation)

def needPattern (r : Rule) (op : Operation) : Except RuleFault String :=
  match r.pattern with
  | some p => if p = "" then .error (.missingPattern op) else .ok p
  | none => .error (.missingPattern op)

def needRegex (r : Rule) (op : Operation) (subject : Pattern.Subject) :
    Except RuleFault Regex := do
  match Regex.compile subject (← r.needPattern op) with
  | some regex => .ok regex
  | none => .error .badPattern

def needHeaderValue (r : Rule) : Except RuleFault String := do
  let v ← r.needValue
  if isHeaderValue v then .ok v else .error .headerValue

def headerEdit (r : Rule) (op : Operation) (name : String) : Except RuleFault Edit := do
  if !isHeaderName name then .error (.headerName name)
  else
    match op with
    | .set => return .setHeader name (← r.needHeaderValue)
    | .add => return .addHeader name (← r.needHeaderValue)
    | .remove => return .removeHeader name
    | .replace => .error (.notSupported op "headers")
    | .regexReplace => .error (.notSupported op "headers")

def urlEdit (r : Rule) (op : Operation) : Except RuleFault Edit := do
  match op with
  | .set =>
    let url ← r.needValue
    if trim url = "" then .error .emptyUrl else return .setUrl url
  | .replace =>
    let pattern ← r.needPattern op
    return .replaceInUrl pattern (← r.needValue)
  | .regexReplace =>
    let regex ← r.needRegex op .text
    return .regexInUrl regex (← r.needValue)
  | .add => .error (.notSupported op "url")
  | .remove => .error (.notSupported op "url")

def bodyEdit (r : Rule) (op : Operation) : Except RuleFault Edit := do
  match op with
  | .set => return .setBody (textBytes (← r.needValue))
  | .add => return .appendBody (textBytes (← r.needValue))
  | .remove => return .removeBody
  | .replace =>
    let pattern ← r.needPattern op
    return .replaceInBody (textBytes pattern) (textBytes (← r.needValue))
  | .regexReplace =>
    let regex ← r.needRegex op .bytes
    return .regexInBody regex (textBytes (← r.needValue))

def methodEdit (r : Rule) (op : Operation) : Except RuleFault Edit := do
  match op with
  | .set =>
    match Method.parse (← r.needValue) with
    | .ok m => return .setMethod m
    | .error name => .error (.unknownMethod name)
  | op => .error (.notSupported op "method")

def compile (r : Rule) : Except RuleFault Edit :=
  match Operation.parse r.operation with
  | none => .error (.unknownOperation r.operation)
  | some op =>
    match Target.parse r.target with
    | some (.header name) => r.headerEdit op name
    | some .url => r.urlEdit op
    | some .body => r.bodyEdit op
    | some .method => r.methodEdit op
    | none => .error (.unknownTarget r.target)

end Rule

/-- The edits of rules at the positions from `index` on, or the first fault with its position. -/
def compileFrom : Nat → List Rule → Except PacketError (List Edit)
  | _, [] => .ok []
  | index, r :: rs =>
    match r.compile with
    | .error fault => .error (.invalidRule index fault)
    | .ok e =>
      match compileFrom (index + 1) rs with
      | .error err => .error err
      | .ok es => .ok (e :: es)

def regexReplaceText (regex : Regex) (value text : String) : String :=
  (bytesText? (regex.replaceAll (textBytes value) (textBytes text))).getD text

def Edit.apply (policy : Policy) (p : Record) : Edit → Record
  | .setHeader name value => { p with headers := p.headers.set name value }
  | .addHeader name value =>
    match policy with
    | .allowDuplicates => { p with headers := p.headers.add name value }
    | .replaceExisting => { p with headers := p.headers.set name value }
  | .removeHeader name => { p with headers := p.headers.without name }
  | .setUrl url => { p with url := url }
  | .replaceInUrl pattern value => { p with url := replaceText pattern value p.url }
  | .regexInUrl regex value => { p with url := regexReplaceText regex value p.url }
  | .setBody body => { p with body := some body }
  | .appendBody extra => { p with body := some (p.body.getD [] ++ extra) }
  | .removeBody => { p with body := none }
  | .replaceInBody pattern value => { p with body := p.body.map (replaceAll pattern value) }
  | .regexInBody regex value => { p with body := p.body.map (regex.replaceAll value) }
  | .setMethod method => { p with method := method }

/-- The record after rules, or the first rule that is no edit. -/
def applyRules (p : Record) (rules : List Rule) (policy : Policy) : Except PacketError Record :=
  match compileFrom 0 rules with
  | .error e => .error e
  | .ok edits => .ok (edits.foldl (Edit.apply policy) p)

end PacketReplay
