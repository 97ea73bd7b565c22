import PacketReplay.Text.Basic

set_option autoImplicit false

namespace PacketReplay

inductive LogLevel where
  | error | warn | info | debug | trace
deriving DecidableEq

namespace LogLevel

def name : LogLevel → String
  | error => "ERROR"
  | warn => "WARN"
  | info => "INFO"
  | debug => "DEBUG"
  | trace => "TRACE"

def depth : LogLevel → Nat
  | error => 0
  | warn => 1
  | info => 2
  | debug => 3
  | trace => 4

/-- The deepest level that a text asks for, or none at all; `info` where it names no level. -/
def parse (text : String) : Option LogLevel :=
  match (trim text).toLower with
  | "trace" => some trace
  | "debug" => some debug
  | "info" => some info
  | "warn" => some warn
  | "warning" => some warn
  | "error" => some error
  | "off" => none
  | _ => some info

end LogLevel

inductive LogEvent where
  | starting
  | tokenStored
  | ready
  | notConfigured
  | unavailable
  | resending
  | attemptFailed
  | notStored
  | stored
  | jobFinished
  | toolFailed
deriving DecidableEq

namespace LogEvent

def level : LogEvent → LogLevel
  | starting => .info
  | tokenStored => .info
  | ready => .info
  | notConfigured => .warn
  | unavailable => .warn
  | resending => .info
  | attemptFailed => .debug
  | notStored => .warn
  | stored => .debug
  | jobFinished => .info
  | toolFailed => .error

def message : LogEvent → String
  | starting => "Starting"
  | tokenStored => "Access token is stored in a file"
  | ready => "Ready"
  | notConfigured => "Rejecting call: no access token configured"
  | unavailable => "Rejecting call: trust store unavailable"
  | resending => "Resending"
  | attemptFailed => "Resend attempt failed"
  | notStored => "Failed to store resent packet"
  | stored => "Stored packet"
  | jobFinished => "Resend job finished"
  | toolFailed => "Tool call failed"

end LogEvent

def writtenEvents (deepest : Option LogLevel) (events : List LogEvent) : List LogEvent :=
  match deepest with
  | none => []
  | some d => events.filter fun e => e.level.depth ≤ d.depth

end PacketReplay
