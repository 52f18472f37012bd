/-!
# The two state machines of the channel

Each side owns one state word of the channel header and is the only writer of
it.  The host moves

`UNINITIALIZED → INITIALIZING → READY → SENDING → READY | COMPLETED`

and may re-initialize from any state.  The guest moves

`UNINITIALIZED → WAITING_HOST_INIT → READY → PROCESSING → ACKNOWLEDGED → READY`

and may restart (to `UNINITIALIZED` or `WAITING_HOST_INIT`) from any state.
The numbering of the states is part of the channel layout; `ofRaw` and `toRaw`
are inverse on the five values of each side.
-/

namespace ShmBench

/-- **Host lifecycle states.** -/
inductive HostState where
  | uninitialized
  | initializing
  | ready
  | sending
  | completed
  deriving DecidableEq, Repr, Inhabited

namespace HostState

/-- The word stored in the channel. -/
def toRaw : HostState → UInt32
  | .uninitialized => 0
  | .initializing => 1
  | .ready => 2
  | .sending => 3
  | .completed => 4

/-- The state a stored word stands for, if any. -/
def ofRaw (raw : UInt32) : Option HostState :=
  if raw = 0 then some .uninitialized
  else if raw = 1 then some .initializing
  else if raw = 2 then some .ready
  else if raw = 3 then some .sending
  else if raw = 4 then some .completed
  else none

/-- The upper-case name of a state. -/
def name : HostState → String
  | .uninitialized => "UNINITIALIZED"
  | .initializing => "INITIALIZING"
  | .ready => "READY"
  | .sending => "SENDING"
  | .completed => "COMPLETED"

/-- **Host transitions.** Initialization is allowed from anywhere; a sent
message returns to `READY` or the run completes. -/
def canTransition : HostState → HostState → Bool
  | _, .initializing => true
  | .initializing, .ready => true
  | .ready, .sending => true
  | .ready, .completed => true
  | .sending, .ready => true
  | .sending, .completed => true
  | _, _ => false

/-- Every state reads back from its stored word. -/
theorem ofRaw_toRaw (s : HostState) : ofRaw s.toRaw = some s := by
  cases s <;> rfl

end HostState

/-- **Guest lifecycle states.** -/
inductive GuestState where
  | uninitialized
  | waitingHostInit
  | ready
  | processing
  | acknowledged
  deriving DecidableEq, Repr, Inhabited

namespace GuestState

/-- The word stored in the channel. -/
def toRaw : GuestState → UInt32
  | .uninitialized => 0
  | .waitingHostInit => 1
  | .ready => 2
  | .processing => 3
  | .acknowledged => 4

/-- The state a stored word stands for, if any. -/
def ofRaw (raw : UInt32) : Option GuestState :=
  if raw = 0 then some .uninitialized
  else if raw = 1 then some .waitingHostInit
  else if raw = 2 then some .ready
  else if raw = 3 then some .processing
  else if raw = 4 then some .acknowledged
  else none

/-- The upper-case name of a state. -/
def name : GuestState → String
  | .uninitialized => "UNINITIALIZED"
  | .waitingHostInit => "WAITING_HOST_INIT"
  | .ready => "READY"
  | .processing => "PROCESSING"
  | .acknowledged => "ACKNOWLEDGED"

/-- The state an upper-case name stands for. -/
def ofName? : String → Option GuestState
  | "UNINITIALIZED" => some .uninitialized
  | "WAITING_HOST_INIT" => some .waitingHostInit
  | "READY" => some .ready
  | "PROCESSING" => some .processing
  | "ACKNOWLEDGED" => some .acknowledged
  | _ => none

/-- **Guest transitions.** A restart is allowed from anywhere; a message goes
`READY → PROCESSING → ACKNOWLEDGED → READY`. -/
def canTransition : GuestState → GuestState → Bool
  | _, .uninitialized => true
  | _, .waitingHostInit => true
  | .waitingHostInit, .ready => true
  | .ready, .processing => true
  | .processing, .acknowledged => true
  | .acknowledged, .ready => true
  | _, _ => false

/-- Every state reads back from its stored word. -/
theorem ofRaw_toRaw (s : GuestState) : ofRaw s.toRaw = some s := by
  cases s <;> rfl

end GuestState

/-- Which state word of the header a write went to. -/
inductive StateField where
  | host
  | guest
  deriving DecidableEq, Repr

/-- The header field name of a state word. -/
def StateField.name : StateField → String
  | .host => "host_state"
  | .guest => "guest_state"

end ShmBench
