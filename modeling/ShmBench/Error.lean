import ShmBench.Text.Visibility

/-!
# Errors of the benchmark

Each failure is a constructor that records its cause; the wording lives in one
`message` function per type.  `BenchError` gathers the families, and its
message prefixes the family's own text with the family's name.
-/

namespace ShmBench

/-- **An operating-system or stream error.** -/
inductive IoError where
  /-- An error number reported by the operating system. -/
  | os (code : Nat)
  /-- An error that carries its own text. -/
  | custom (text : String)
  deriving DecidableEq, Repr, Inhabited

/-- The description of an operating-system error number. -/
def IoError.describe (code : Nat) : String :=
  match code with
  | 1 => "Operation not permitted"
  | 2 => "No such file or directory"
  | 13 => "Permission denied"
  | 17 => "File exists"
  | 20 => "Not a directory"
  | 21 => "Is a directory"
  | 22 => "Invalid argument"
  | 28 => "No space left on device"
  | 36 => "File name too long"
  | 40 => "Too many levels of symbolic links"
  | _ => "Unknown error " ++ toString code

/-- The text of an I/O error. -/
def IoError.message : IoError → String
  | .os code => s!"{IoError.describe code} (os error {code})"
  | .custom text => text

/-- No such file or directory. -/
def IoError.notFound : IoError := .os 2

/-- The path names a directory. -/
def IoError.isDirectory : IoError := .os 21

/-- A component of the path is not a directory. -/
def IoError.notDirectory : IoError := .os 20

/-- **A state word change that the machine forbids, or a word that is no state.** -/
inductive TransitionError where
  | invalid (side : String) (fromName toName : String)
  | unknownState (field : String) (value : UInt32)
  deriving DecidableEq, Repr

def TransitionError.message : TransitionError → String
  | .invalid side f t => s!"{side} cannot transition from {f} to {t}"
  | .unknownState field value => s!"Unknown {field} value in shared memory: {value}"

/-- The eight-digit hexadecimal text of a word with its `0x` marker. -/
def hexWord (w : UInt32) : String :=
  let digits := String.ofList (Nat.toDigits 16 w.toNat)
  "0x" ++ String.ofList (List.replicate (8 - digits.length) '0') ++ digits

/-- **Handshake and per-message failures.** -/
inductive ProtocolError where
  | handshakeTimeout (waitedMs : Nat) (magic : UInt32) (hostState : String)
  | payloadTooLarge (size capacity : Nat)
  | hostNotReady (state : String)
  | shutdown
  | transition (e : TransitionError)
  deriving DecidableEq, Repr

def ProtocolError.message : ProtocolError → String
  | .handshakeTimeout w m h => s!"Host not ready after {w}ms (magic: {hexWord m}, host state: {h})"
  | .payloadTooLarge s c => s!"Payload size exceeds channel capacity: {s} > {c}"
  | .hostNotReady s => s!"Host must be READY to send, current state: {s}"
  | .shutdown => "Test completion flag observed"
  | .transition e => "Invalid state transition: " ++ e.message

/-- **Failures to make or map a region.** -/
inductive RegionError where
  | createFailed (name reason : String)
  | openFailed (path reason : String)
  | mapFailed (reason : String)
  | tooSmall (size min : Nat)
  | transportNotFound (tried : List String)
  deriving DecidableEq, Repr

def RegionError.message : RegionError → String
  | .createFailed n r => s!"Failed to create shared memory region: {n} - {r}"
  | .openFailed p r => s!"Failed to open shared memory device {p}: {r}"
  | .mapFailed r => s!"Failed to map shared memory: {r}"
  | .tooSmall s m => s!"Region too small for channel: {s} bytes (need at least {m})"
  | .transportNotFound tried =>
    "No shared memory transport found (tried " ++ Escape.quotedList tried ++ ")"

/-- **Configuration failures.** -/
inductive ConfigError where
  | notFound (path : String)
  | parse (message : String)
  | invalidField (field value reason : String)
  deriving DecidableEq, Repr

def ConfigError.message : ConfigError → String
  | .notFound p => s!"Configuration file not found: {p}"
  | .parse m => s!"Configuration parse error: {m}"
  | .invalidField f v r => s!"Invalid field value: {f} = {v} - {r}"

/-- **Counter failures.** -/
inductive CounterError where
  | unsupportedPlatform
  | essentialUnavailable (event : String) (source : IoError)
  deriving DecidableEq, Repr

def CounterError.message : CounterError → String
  | .unsupportedPlatform => "Hardware performance counters are not supported on this platform"
  | .essentialUnavailable e s => s!"Essential counter '{e}' could not be opened: {s.message}"

/-- **Every failure of the benchmark core.** -/
inductive BenchError where
  | config (e : ConfigError)
  | transition (e : TransitionError)
  | protocol (e : ProtocolError)
  | region (e : RegionError)
  | counter (e : CounterError)
  | io (context : String) (source : IoError)
  deriving DecidableEq, Repr

def BenchError.message : BenchError → String
  | .config e => "Configuration error: " ++ e.message
  | .transition e => "Invalid state transition: " ++ e.message
  | .protocol e => "Protocol error: " ++ e.message
  | .region e => "Shared memory error: " ++ e.message
  | .counter e => "Hardware counter error: " ++ e.message
  | .io c s => s!"IO error: {c} - {s.message}"

/-- The text of the wrapped error alone. -/
def BenchError.innerMessage : BenchError → String
  | .config e => e.message
  | .transition e => e.message
  | .protocol e => e.message
  | .region e => e.message
  | .counter e => e.message
  | .io _ s => s.message

end ShmBench
