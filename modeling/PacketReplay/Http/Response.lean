import PacketReplay.Packet.Header
import PacketReplay.Resend.Report
import PacketReplay.Json.Reader
import PacketReplay.Url.Percent

set_option autoImplicit false

namespace PacketReplay

structure ResponseHead where
  status : Nat
  isOld : Bool
  /-- The headers in the order of their lines, with names in lower case. -/
  headers : Headers
deriving DecidableEq

namespace ResponseHead

def maxHeaders : Nat := 100

def takeLine? (b : Bytes) : Option (Bytes × Bytes) :=
  match b.dropWhile (· != 10) with
  | [] => none
  | _ :: rest =>
    let line := b.takeWhile (· != 10)
    some (if line.getLast? = some 13 then line.dropLast else line, rest)

def dropEmptyLines : Nat → Bytes → Bytes
  | 0, b => b
  | fuel + 1, b =>
    match b with
    | 10 :: rest => dropEmptyLines fuel rest
    | 13 :: 10 :: rest => dropEmptyLines fuel rest
    | _ => b

def isTextByte (b : UInt8) : Bool :=
  b == 9 || (32 ≤ b && b != 127)

def digit? (b : UInt8) : Option Nat :=
  if 48 ≤ b ∧ b ≤ 57 then some (b.toNat - 48) else none

def readStatus? (line : Bytes) : Option (Bool × Nat) := do
  let rest ← if (textBytes "HTTP/1.").isPrefixOf line then some (line.drop 7) else none
  let version :: 32 :: a :: b :: c :: reason := rest | none
  let isOld ← if version = 48 then some true else if version = 49 then some false else none
  let status := (← digit? a) * 100 + (← digit? b) * 10 + (← digit? c)
  if status < 100 then none
  match reason with
  | [] => some (isOld, status)
  | 32 :: text => if text.all isTextByte then some (isOld, status) else none
  | _ => none

def isSpace (b : UInt8) : Bool :=
  b == 32 || b == 9

def trimSpaces (b : Bytes) : Bytes :=
  ((b.dropWhile isSpace).reverse.dropWhile isSpace).reverse

def readHeader? (line : Bytes) : Option Header :=
  match line.dropWhile (· != 58) with
  | [] => none
  | _ :: value =>
    let name := line.takeWhile (· != 58)
    if name.isEmpty ∨ !name.all isTokenByte ∨ !value.all isTextByte then none
    else some ⟨(Utf8.lossy name).toLower, Utf8.lossy (trimSpaces value)⟩

def readHeaders? : Nat → Bytes → Option (Headers × Bytes)
  | 0, _ => none
  | fuel + 1, b => do
    let (line, rest) ← takeLine? b
    if line.isEmpty then some ([], rest)
    else
      let h ← readHeader? line
      let (hs, rest) ← readHeaders? fuel rest
      some (h :: hs, rest)

def read? (b : Bytes) : Option (ResponseHead × Bytes) := do
  let (line, rest) ← takeLine? (dropEmptyLines b.length b)
  let (isOld, status) ← readStatus? line
  let (headers, rest) ← readHeaders? (rest.length + 1) rest
  if maxHeaders < headers.length then none else some (⟨status, isOld, headers⟩, rest)

/-- The head of the final response: interim ones before it are passed over. -/
def readFinal? : Nat → Bytes → Option (ResponseHead × Bytes)
  | 0, _ => none
  | fuel + 1, b => do
    let (head, rest) ← read? b
    if 100 ≤ head.status ∧ head.status < 200 ∧ head.status ≠ 101 then readFinal? fuel rest
    else some (head, rest)

/-- The items of a header value between commas, without spaces around. -/
def items (value : String) : List String :=
  (value.splitOn ",").map fun s => (Utf8.lossy (trimSpaces (textBytes s)))

def length? (s : String) : Option Nat :=
  if s.isEmpty ∨ !s.toList.all Char.isDigit then none
  else
    let n := s.toList.foldl (fun n c => n * 10 + (c.toNat - 48)) 0
    if n < 0x10000000000000000 then some n else none

end ResponseHead

inductive BodyFraming where
  | empty
  | sized (length : Nat)
  | chunked
  | untilClose
deriving DecidableEq

namespace BodyFraming

def maxLength : Nat := 0x10000000000000000 - 3

/-- The length that all of the given texts state. -/
def agreed? (texts : List String) : Option Nat :=
  match texts.mapM ResponseHead.length? with
  | some (n :: rest) => if rest.all (· == n) ∧ n ≤ maxLength then some n else none
  | _ => none

/-- How the body of a response to a method ends; `none` when the head contradicts itself. -/
def ofHead? (method : Method) (h : ResponseHead) : Option BodyFraming :=
  if h.status = 101 ∨ h.status = 204 ∨ h.status = 304 ∨ method = .head then some .empty
  else
    match h.headers.values "transfer-encoding", h.headers.values "content-length" with
    | [], [] => some .untilClose
    | [], lengths => (agreed? (lengths.flatMap ResponseHead.items)).map sized
    | codings, _ =>
      if h.isOld then none
      else
        match codings.getLast?.bind fun c => (ResponseHead.items c).getLast? with
        | some c => if sameIgnoringCase c "chunked" then some .chunked else some .untilClose
        | none => some .untilClose

def readSize? (b : Bytes) : Option (Nat × Bytes) :=
  let isHex (c : UInt8) : Bool := (Percent.hexValue? c).isSome
  let digits := b.takeWhile isHex
  let n := digits.foldl (fun n c => n * 16 + ((Percent.hexValue? c).getD 0).toNat) 0
  if digits.isEmpty ∨ 0x10000000000000000 ≤ n then none else some (n, b.dropWhile isHex)

/-- The rest of a line that gives the size of a chunk: spaces, and an extension after a semicolon;
with what follows the line. -/
def skipExtension? (b : Bytes) : Option Bytes :=
  match b.dropWhile ResponseHead.isSpace with
  | 13 :: 10 :: rest => some rest
  | 59 :: text =>
    match text.dropWhile fun c => c != 13 && c != 10 with
    | 13 :: 10 :: rest => some rest
    | _ => none
  | _ => none

def endsWell (b : Bytes) : Bool :=
  (ResponseHead.readHeaders? (b.length + 1) b).isSome

/-- The bytes in chunks; the chunks are fewer than the bytes. -/
def readChunks? : Nat → Bytes → Option Bytes
  | 0, _ => none
  | fuel + 1, b => do
    let (size, rest) ← readSize? b
    let rest ← skipExtension? rest
    if size = 0 then
      if endsWell rest then some [] else none
    else if rest.length < size then none
    else
      match rest.drop size with
      | 13 :: 10 :: more => (readChunks? fuel more).map (rest.take size ++ ·)
      | _ => none

def read? (b : Bytes) : BodyFraming → Option Bytes
  | empty => some []
  | sized n => if b.length < n then none else some (b.take n)
  | chunked => readChunks? (b.length + 1) b
  | untilClose => some b

end BodyFraming

/-- Headers with every repeated name next to where it first occurs. -/
def Headers.grouped : Headers → Headers → Headers
  | [], done => done
  | h :: hs, done =>
    if done.has h.name then grouped hs (insertAfter h done) else grouped hs (done ++ [h])
where
  /-- Puts a header after the last one of its name. -/
  insertAfter (h : Header) : Headers → Headers
  | [] => [h]
  | g :: gs =>
    if g.named h.name && !Headers.has gs h.name then g :: h :: gs else g :: insertAfter h gs

structure StartedResponse where
  head : ResponseHead
  framing : BodyFraming
  rest : Bytes
deriving DecidableEq

namespace StartedResponse

/-- The response that a server's bytes begin; `none` when they begin none to a request of this
method. -/
def ofBytes? (method : Method) (b : Bytes) : Option StartedResponse := do
  let (head, rest) ← ResponseHead.readFinal? (b.length + 1) b
  some ⟨head, ← BodyFraming.ofHead? method head, rest⟩

/-- The whole response, unless its body ends too early or cannot be read. -/
def finish? (r : StartedResponse) : Option Response :=
  (r.framing.read? r.rest).map fun body => ⟨r.head.status.toUInt16, r.head.headers.grouped [], body⟩

end StartedResponse

end PacketReplay
