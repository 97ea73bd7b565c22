import PacketReplay.Json.Basic
import PacketReplay.Number.Shortest

set_option autoImplicit false

namespace PacketReplay.Json

def hexDigit (n : Nat) : Char :=
  if n < 10 then Char.ofNat (48 + n) else Char.ofNat (87 + n)

def escapeChar (c : Char) : List Char :=
  if c = '\x22' then ['\\', '\x22']
  else if c = '\\' then ['\\', '\\']
  else if c.toNat < 0x20 then
    if c = '\x08' then ['\\', 'b']
    else if c = '\x0c' then ['\\', 'f']
    else if c = '\n' then ['\\', 'n']
    else if c = '\r' then ['\\', 'r']
    else if c = '\t' then ['\\', 't']
    else ['\\', 'u', '0', '0', hexDigit (c.toNat / 16), hexDigit (c.toNat % 16)]
  else [c]

def writeString (s : String) : List Char :=
  '\x22' :: (s.toList.flatMap escapeChar ++ ['\x22'])

def writeLeaf : Json → List Char
  | .bool true => "true".toList
  | .bool false => "false".toList
  | .int n => (toString n).toList
  | .float x => x.text
  | .str s => writeString s
  | _ => "null".toList

mutual

def write : Json → List Char
  | .arr [] => ['[', ']']
  | .arr (v :: vs) => '[' :: (write v ++ writeItems vs)
  | .obj [] => ['\x7b', '\x7d']
  | .obj ((k, v) :: ms) => '\x7b' :: (writeString k ++ ':' :: (write v ++ writeMembers ms))
  | v => writeLeaf v

def writeItems : List Json → List Char
  | [] => [']']
  | v :: vs => ',' :: (write v ++ writeItems vs)

def writeMembers : List (String × Json) → List Char
  | [] => ['\x7d']
  | (k, v) :: ms => ',' :: (writeString k ++ ':' :: (write v ++ writeMembers ms))

end

def newLine (level : Nat) : List Char :=
  '\n' :: List.replicate (2 * level) ' '

mutual

def writePretty (level : Nat) : Json → List Char
  | .arr [] => ['[', ']']
  | .arr (v :: vs) =>
    '[' :: (newLine (level + 1) ++ (writePretty (level + 1) v ++ writePrettyItems level vs))
  | .obj [] => ['\x7b', '\x7d']
  | .obj ((k, v) :: ms) =>
    '\x7b' :: (newLine (level + 1) ++ (writeString k ++ ':' :: ' ' ::
      (writePretty (level + 1) v ++ writePrettyMembers level ms)))
  | v => writeLeaf v

def writePrettyItems (level : Nat) : List Json → List Char
  | [] => newLine level ++ [']']
  | v :: vs =>
    ',' :: (newLine (level + 1) ++ (writePretty (level + 1) v ++ writePrettyItems level vs))

def writePrettyMembers (level : Nat) : List (String × Json) → List Char
  | [] => newLine level ++ ['\x7d']
  | (k, v) :: ms =>
    ',' :: (newLine (level + 1) ++ (writeString k ++ ':' :: ' ' ::
      (writePretty (level + 1) v ++ writePrettyMembers level ms)))

end

def compact (v : Json) : String :=
  String.ofList (write v)

def pretty (v : Json) : String :=
  String.ofList (writePretty 0 v)

end PacketReplay.Json
