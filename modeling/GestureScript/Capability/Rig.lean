import GestureScript.Capability.DryRun
import GestureScript.Capability.Playback
import GestureScript.Desktop.Worker

/-!
# Rigs

The workers that a capability can have, as one type.
-/

set_option autoImplicit false

namespace GestureScript

inductive Rig where
  | dryRun (d : DryRun)
  | playback (p : Playback)
  | desktop (d : Desktop)

namespace Rig

def isReady : Rig → Bool × Rig
  | .dryRun d => (DryRun.worker.isReady d).map id .dryRun
  | .playback p => (Playback.worker.isReady p).map id .playback
  | .desktop d => (Desktop.worker.isReady d).map id .desktop

def perform (s : Submission) : Rig → Attempt × Rig
  | .dryRun d => (DryRun.worker.perform s d).map id .dryRun
  | .playback p => (Playback.worker.perform s p).map id .playback
  | .desktop d => (Desktop.worker.perform s d).map id .desktop

def worker : Worker Rig where
  isReady := isReady
  perform := perform

/-- The commands that a rig remembers, if it does. -/
def executed? : Rig → Option (List Command)
  | .dryRun d => some d.executed
  | .playback p => some p.executed
  | .desktop _ => none

end Rig

end GestureScript
