set_option autoImplicit false

namespace PacketReplay

structure HomeDirs where
  home : Option String
  dataHome : Option String
  accountHome : String
deriving DecidableEq

/-- A path below a directory; an absolute path stands for itself. -/
def joinPath (base path : String) : String :=
  if path.startsWith "/" ∨ base = "" then path
  else if base.endsWith "/" then base ++ path
  else base ++ "/" ++ path

namespace HomeDirs

def homePath (d : HomeDirs) : String :=
  match d.home with
  | some h => if h = "" then d.accountHome else h
  | none => d.accountHome

/-- The base directory for user data: the one given, when it is an absolute path. -/
def dataPath (d : HomeDirs) : String :=
  match d.dataHome with
  | some path => if path.startsWith "/" then path else joinPath d.homePath ".local/share"
  | none => joinPath d.homePath ".local/share"

end HomeDirs

structure Settings where
  storagePath : String
  ringSize : Nat
  maxResendCount : UInt32
  maxIntervalMs : UInt64
  dispatchTimeoutMs : UInt64
  acceptInvalidCerts : Bool
deriving DecidableEq

def Settings.default (dirs : HomeDirs) : Settings where
  storagePath := joinPath dirs.dataPath "packetproxy"
  ringSize := 10000
  maxResendCount := 1000
  maxIntervalMs := 60000
  dispatchTimeoutMs := 30000
  acceptInvalidCerts := false

def version : String := "0.1.0"

end PacketReplay
