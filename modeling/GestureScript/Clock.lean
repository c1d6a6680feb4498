import GestureScript.Binary64.Basic
import GestureScript.Outcome.Fault

/-!
# The clock

The clock counts nanoseconds in 64 bits with a sign. It does not sleep or wait for
longer than that.
-/

set_option autoImplicit false

namespace GestureScript.Clock

/-- Can the clock count so many seconds? -/
def counts (seconds : Binary64) : Bool :=
  ((seconds.scale 1000000000 1).truncate?).any (· < Binary64.wordLimit)

/-- Why the clock does not sleep for some seconds. -/
def sleepFault? (seconds : Binary64) : Option Fault :=
  if counts seconds then none else some .sleepTooLong

/-- Why the clock does not wait for up to some seconds. With no time left it need not count. -/
def waitFault? (seconds : Binary64) : Option Fault :=
  if seconds.isPositive then sleepFault? seconds else none

/-- Does the clock let some time pass when it is to wait for up to so many seconds? -/
def waits (seconds : Binary64) : Bool := seconds.isPositive && counts seconds

end GestureScript.Clock
