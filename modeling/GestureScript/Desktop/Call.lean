import GestureScript.Clock

/-!
# Device calls

What can be asked of the pointer, the keyboard, the clipboard and the clock, and
the machine that answers. A call is recorded before it can fail.
-/

set_option autoImplicit false

namespace GestureScript

inductive DeviceCall where
  | moveTo (x y : Int)
  | mouseDown
  | mouseUp
  | dragTo (x y : Int) (seconds : Binary64)
  | scroll (clicks : Int)
  | scrollSideways (clicks : Int)
  | hotkey (keys : List String)
  | press (key : String)
  | write (text : String) (interval : Binary64)
  | copy (text : String)
  | sleep (seconds : Binary64)
  deriving DecidableEq, Repr

namespace DeviceCall

/-- What a call asks for, without the details. -/
inductive Action where
  | moveTo
  | mouseDown
  | mouseUp
  | dragTo
  | scroll
  | scrollSideways
  | hotkey
  | press
  | write
  | copy
  | sleep
  deriving DecidableEq, Repr

def action : DeviceCall → Action
  | .moveTo .. => .moveTo
  | .mouseDown => .mouseDown
  | .mouseUp => .mouseUp
  | .dragTo .. => .dragTo
  | .scroll _ => .scroll
  | .scrollSideways _ => .scrollSideways
  | .hotkey _ => .hotkey
  | .press _ => .press
  | .write .. => .write
  | .copy _ => .copy
  | .sleep _ => .sleep

end DeviceCall

/-- A machine with a screen and input devices. -/
structure Device where
  /-- The answer to each request for the size of the screen, counted from zero. -/
  size : Nat → Except Fault (List Int)
  /-- Whether a call fails, given the calls made before it. -/
  fault : List DeviceCall → DeviceCall → Option Fault
  hasClipboard : Bool

/-- What happened on a machine so far. -/
structure DeviceLog where
  polls : Nat := 0
  calls : List DeviceCall := []
  deriving DecidableEq, Repr

/-- Something done on a machine: it ends with a value or breaks off with a fault. -/
abbrev Act (α : Type) := ExceptT Fault (StateM DeviceLog) α

namespace Device

def call (d : Device) (c : DeviceCall) : Act Unit := do
  let log ← get
  set { log with calls := log.calls ++ [c] }
  match d.fault log.calls c with
  | some f => throw f
  | none => pure ()

def pollSize (d : Device) : Act (List Int) := do
  let log ← get
  set { log with polls := log.polls + 1 }
  match d.size log.polls with
  | .error f => throw f
  | .ok size => pure size

/-- A rule by which calls of one sort fail, all of them or only the `nth`. -/
structure FaultRule where
  action : DeviceCall.Action
  nth : Option Nat
  fault : Fault

def FaultRule.applies (earlier : List DeviceCall) (c : DeviceCall) (r : FaultRule) : Bool :=
  r.action == c.action &&
    r.nth.all (fun n => n == (earlier.filter (fun e => e.action == c.action)).length + 1)

/-- The answer for a request; the last answer repeats. -/
def repeatLast (sizes : List (Except Fault (List Int))) (n : Nat) : Except Fault (List Int) :=
  (sizes[n]? <|> sizes.getLast?).getD (.ok [])

/-- A machine whose screen sizes and faults are given. -/
def simulated (sizes : List (Except Fault (List Int))) (rules : List FaultRule)
    (hasClipboard : Bool) : Device where
  size := repeatLast sizes
  fault earlier c := (rules.find? (·.applies earlier c)).map (·.fault)
  hasClipboard := hasClipboard

/-- A machine that sleeps as its clock can, and whose sleep does not fail otherwise. -/
def withSystemClock (d : Device) : Device where
  size := d.size
  fault earlier c :=
    match c with
    | .sleep seconds => Clock.sleepFault? seconds
    | c => d.fault earlier c
  hasClipboard := d.hasClipboard

end Device

end GestureScript
