import GestureScript.Capability.Worker
import GestureScript.Command.Display

/-!
# Dry runs

A worker that is always ready and only remembers the commands it was given.
-/

set_option autoImplicit false

namespace GestureScript

structure DryRun where
  executed : List Command := []
  deriving DecidableEq, Repr

namespace DryRun

def outcome (c : Command) : Outcome :=
  .success ⟨"Dry run: " ++ c.display, some [("kind", .text c.kind.name)]⟩

def perform : Submission → DryRun → Attempt × DryRun
  | .command c, d => (⟨[], .returned (outcome c), false⟩, { d with executed := d.executed ++ [c] })
  | .other typeName, d => (⟨[], .raised (.unsupportedCommand typeName), false⟩, d)

def worker : Worker DryRun where
  isReady d := (true, d)
  perform := perform

end DryRun

end GestureScript
