import GestureScript.Capability.Worker
import GestureScript.Desktop.Gesture

/-!
# Desktop input

The worker that carries out commands on a desktop. Without a device it is never
ready.
-/

set_option autoImplicit false

namespace GestureScript

structure Desktop where
  workplace : Option Workplace
  log : DeviceLog := {}

namespace Desktop

def noDevice : Fault := .refused .capabilityUnavailable "pyautogui backend is not available"

def completed (w : Workplace) (c : Command) : Outcome :=
  .success ⟨"Completed: " ++ c.display, some (w.metadata c)⟩

/-- Carry out a command; the calls are those made for this command. -/
def performOn (w : Workplace) (c : Command) (log : DeviceLog) : Attempt × DeviceLog :=
  let (result, after) := ((w.perform c).run).run log
  let ending := match result with
    | .ok () => .returned (completed w c)
    | .error f => .raised (Workplace.reported f)
  (⟨after.calls.drop log.calls.length, ending, false⟩, after)

def perform (s : Submission) (d : Desktop) : Attempt × Desktop :=
  match d.workplace, s with
  | none, _ => (⟨[], .raised noDevice, false⟩, d)
  | some _, .other typeName =>
    (⟨[], .raised (.refused .invalidState ("Unsupported command: " ++ typeName)), false⟩, d)
  | some w, .command c =>
    let (attempt, log) := performOn w c d.log
    (attempt, { d with log := log })

def isReady (d : Desktop) : Bool × Desktop :=
  match d.workplace with
  | none => (false, d)
  | some w =>
    let (ready, log) := w.isReady d.log
    (ready, { d with log := log })

def worker : Worker Desktop where
  isReady := isReady
  perform := perform

end Desktop

end GestureScript
