import GestureScript.Command.Display
import GestureScript.Desktop.Call
import GestureScript.Extent
import GestureScript.Json.Basic
import GestureScript.Settings.Basic

/-!
# Commands on a desktop

A tap is a press of the mouse button, a swipe a drag, a scroll a turn of the
wheel, and a system button a hotkey. Text is typed if it is ASCII; other text is
pasted. Points are compared with the size of the screen before anything is done.
-/

set_option autoImplicit false

namespace GestureScript

/-- The device, and all that decides how it is used. -/
structure Workplace where
  device : Device
  settings : Settings
  platform : Platform

namespace Workplace

/-- A duration in milliseconds as seconds. -/
def seconds? (duration : Int) : Option Binary64 := (Binary64.ofInt? duration).map (·.scale 1 1000)

def seconds (duration : Int) : Act Binary64 :=
  match seconds? duration with
  | some s => pure s
  | none => throw .durationTooLarge

/-- The time between the steps of pasting. -/
def pasteDelay : Binary64 := .ofDecimal false 5 (-2)

def extent (w : Workplace) : Act Extent := do
  match ← w.device.pollSize with
  | [width, height] => pure ⟨width, height⟩
  | size => throw (.sizeOfLength size.length)

def checkPoints (w : Workplace) (points : List Point) : Act Unit := do
  let extent ← w.extent
  match extent.check points with
  | .error f => throw f
  | .ok (some complaint) => throw (.refused .invalidCoordinates complaint)
  | .ok none => pure ()

def tapAt (w : Workplace) (hold : Binary64) (p : Point) : Act Unit := do
  w.device.call (.moveTo p.x p.y)
  w.device.call .mouseDown
  w.device.call (.sleep hold)
  w.device.call .mouseUp

def tap (w : Workplace) (points : List Point) (duration : Int) : Act Unit := do
  w.checkPoints points
  let hold ← seconds duration
  points.forM (w.tapAt hold)

def swipe (w : Workplace) (start finish : Point) (duration : Int) : Act Unit := do
  w.checkPoints [start, finish]
  w.device.call (.moveTo start.x start.y)
  let s ← seconds duration
  w.device.call (.dragTo finish.x finish.y s)

/-- The turn of the wheel for a direction. -/
def wheel (amount : Int) : Direction → DeviceCall
  | .up => .scroll amount
  | .down => .scroll (-amount)
  | .left => .scrollSideways (-amount)
  | .right => .scrollSideways amount

def wait (w : Workplace) (duration : Int) : Act Unit := do
  let s ← seconds duration
  w.device.call (.sleep s)

def scroll (w : Workplace) (direction : Direction) (duration : Int) : Act Unit := do
  w.device.call (wheel w.settings.scrollAmount direction)
  w.wait duration

def isAscii (text : String) : Bool := text.toList.all (fun c => c.toNat < 128)

def clipboardUnavailable (f : Fault) : Fault :=
  .refusedBecause .textInputUnavailable ("Clipboard unavailable: " ++ f.message) f

/-- Put a text on the clipboard. -/
def copy (w : Workplace) (text : String) : Act Unit :=
  if w.device.hasClipboard then
    tryCatch (w.device.call (.copy text)) (fun f => throw (clipboardUnavailable f))
  else throw (clipboardUnavailable .noClipboard)

def paste (w : Workplace) (text : String) : Act Unit := do
  w.copy text
  w.device.call (.sleep pasteDelay)
  w.device.call (.hotkey [w.platform.modifier, "v"])
  w.device.call (.sleep pasteDelay)

def clear (w : Workplace) : Act Unit := do
  w.device.call (.hotkey [w.platform.modifier, "a"])
  w.device.call (.press "backspace")

def enter (w : Workplace) (text : String) : Act Unit :=
  if isAscii text then w.device.call (.write text w.settings.typingInterval) else w.paste text

def typeText (w : Workplace) (text : String) (commit clear : Bool) : Act Unit := do
  if clear then w.clear
  w.enter text
  if commit then w.device.call (.press "enter")

def perform (w : Workplace) : Command → Act Unit
  | .tap points duration => w.tap points duration
  | .swipe start finish duration => w.swipe start finish duration
  | .scroll direction duration => w.scroll direction duration
  | .typeText text commit clear => w.typeText text commit clear
  | .wait duration => w.wait duration
  | .press button => w.device.call (.hotkey (w.settings.hotkey button))

/-- The keys of a shortcut in one text. -/
def keysText (keys : List String) : String := "+".intercalate keys

/-- Details for the outcome of a command that was carried out. -/
def metadata (w : Workplace) : Command → List (String × Json)
  | .tap points duration => [("points", .int points.length), ("duration_ms", .int duration)]
  | .swipe _ _ duration => [("duration_ms", .int duration)]
  | .scroll direction _ =>
    [("direction", .text direction.name), ("amount", .int w.settings.scrollAmount)]
  | .typeText text _ _ =>
    [("text_length", .int text.length),
     ("method", .text (if isAscii text then "keystrokes" else "clipboard"))]
  | .wait duration => [("waited_ms", .int duration)]
  | .press button => [("hotkey", .text (keysText (w.settings.hotkey button)))]

/-- How a fault that broke off a command is reported. A refusal speaks for itself. -/
def reported (f : Fault) : Fault :=
  match f with
  | .refused .. => f
  | .refusedBecause .. => f
  | .failSafe _ =>
    .refusedBecause .boundaryViolation "Pointer reached a screen corner, fail-safe triggered" f
  | f => .refusedBecause .dispatchFailed ("Input dispatch failed: " ++ f.message) f

/-- Is there a screen of a positive size? -/
def isReady (w : Workplace) (log : DeviceLog) : Bool × DeviceLog :=
  match (w.device.pollSize.run).run log with
  | (.ok [width, height], log) => (Extent.isPositive ⟨width, height⟩, log)
  | (_, log) => (false, log)

end Workplace

end GestureScript
