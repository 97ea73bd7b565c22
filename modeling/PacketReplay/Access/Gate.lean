import PacketReplay.Error

set_option autoImplicit false

namespace PacketReplay

inductive Expected where
  | token (t : String)
  | nothing
  | failed
deriving DecidableEq

inductive TokenFile where
  | missing
  | unreadable
  | file (contents : Bytes)
deriving DecidableEq

namespace TokenFile

/-- The token a file holds: its text without blanks around, if any is left. -/
def expected : TokenFile → Expected
  | .missing => .nothing
  | .unreadable => .failed
  | .file contents =>
    match bytesText? contents with
    | none => .failed
    | some text => if trim text = "" then .nothing else .token (trim text)

/-- The token a file holds, or a fresh one that is saved in it when it holds none; with the file
afterwards. There is no token when the file cannot be read. -/
def ensure (fresh : String) (f : TokenFile) : Option String × TokenFile :=
  match f.expected with
  | .token t => (some t, f)
  | .nothing => (some fresh, .file (textBytes fresh))
  | .failed => (none, f)

end TokenFile

inductive TrustStore where
  | fixed (text : Option String)
  | file (f : TokenFile)
  | broken
  /-- A store of another kind, by what it yields; a token may have blanks around or be empty. -/
  | other (yields : Expected)
deriving DecidableEq

def TrustStore.expected : TrustStore → Expected
  | .fixed none => .nothing
  | .fixed (some text) => if trim text = "" then .nothing else .token (trim text)
  | .file f => f.expected
  | .broken => .failed
  | .other yields => yields

/-- Whether two byte sequences are equal, found by looking at every byte whatever the first
difference. -/
def equalBytes (a b : Bytes) : Bool :=
  a.length == b.length && (List.zipWith (· ^^^ ·) a b).foldl (· ||| ·) 0 == 0

/-- Lets a call through, or says why not. A missing token is reported before the configured one is
looked at. -/
def TrustStore.authorize (store : TrustStore) (presented : Option String) :
    Except PacketError Unit :=
  match presented.map trim with
  | none => .error (.unauthorized .tokenRequired)
  | some "" => .error (.unauthorized .tokenRequired)
  | some token =>
    match store.expected with
    | .nothing => .error (.unauthorized .notConfigured)
    | .failed => .error (.unauthorized .unavailable)
    | .token t =>
      if equalBytes (textBytes t) (textBytes token) then .ok ()
      else .error (.unauthorized .wrongToken)

inductive TokenCall where
  | read
  /-- A token is to be there, a fresh one if there is none. -/
  | ensure (fresh : String)
deriving DecidableEq

structure TokenTurn where
  answer : Expected
  written : Option Bytes
deriving DecidableEq

namespace TokenFile

def turn (f : TokenFile) : TokenCall → TokenTurn
  | .read => ⟨f.expected, none⟩
  | .ensure fresh =>
    match f.expected with
    | .token t => ⟨.token t, none⟩
    | .nothing => ⟨.token fresh, some (textBytes fresh)⟩
    | .failed => ⟨.failed, none⟩

def overwritten (f : TokenFile) : Option Bytes → TokenFile
  | some contents => .file contents
  | none => f

def run : TokenFile → List TokenCall → List TokenTurn × TokenFile
  | f, [] => ([], f)
  | f, call :: calls =>
    let t := f.turn call
    let (turns, last) := (f.overwritten t.written).run calls
    (t :: turns, last)

end TokenFile

end PacketReplay
