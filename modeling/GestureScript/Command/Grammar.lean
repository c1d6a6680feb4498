import GestureScript.Command.Basic
import GestureScript.Numeral
import GestureScript.Settings.Basic
import GestureScript.Text.Blank
import GestureScript.Text.Lowercase

/-!
# The line language

A line is a keyword in any case and its arguments. Gestures may end with a
duration; a word there that is not an integer counts for nothing, and the default
of the settings stands in. A line that is malformed is no command.
-/

set_option autoImplicit false

namespace GestureScript

open Text

inductive Keyword where
  | tap
  | swipe
  | scroll
  | input
  | wait
  | press (button : Button)
  deriving DecidableEq, Repr

namespace Keyword

def all : List Keyword :=
  [.tap, .swipe, .scroll, .input, .wait, .press .back, .press .home, .press .recents]

def name : Keyword → String
  | .tap => "tap"
  | .swipe => "swipe"
  | .scroll => "scroll"
  | .input => "input"
  | .wait => "wait"
  | .press button => button.name

/-- The keyword that a word spells, in any case. -/
def ofWord? (word : List Char) : Option Keyword :=
  all.find? (fun k => k.name.toList == lower word)

@[simp] theorem mem_all (k : Keyword) : k ∈ all := by
  cases k <;> first | decide | rename_i b; cases b <;> decide

end Keyword

/-- An argument that has to be an integer. -/
def integerArgument? (word : List Char) : Option Int :=
  match Numeral.read word with
  | .value n => some n
  | _ => none

/-- The duration among the arguments that may hold one. A numeral that is too long
to be read spoils the line. -/
def durationArgument? (standard : Int) : List (List Char) → Option Int
  | [] => some standard
  | word :: _ =>
    match Numeral.read word with
    | .value n => some n
    | .notInteger => some standard
    | .tooLong => none

namespace Command

/-- The command of a keyword and its arguments; `rest` is the text that they are
the words of. -/
def ofArguments? (settings : Settings) (rest : List Char) :
    Keyword → List (List Char) → Option Command
  | .tap, x :: y :: more => do
    let x ← integerArgument? x
    let y ← integerArgument? y
    let duration ← durationArgument? settings.tapDuration more
    (Command.tap [⟨x, y⟩] duration).guarded
  | .swipe, x :: y :: x' :: y' :: more => do
    let x ← integerArgument? x
    let y ← integerArgument? y
    let x' ← integerArgument? x'
    let y' ← integerArgument? y'
    let duration ← durationArgument? settings.swipeDuration more
    (Command.swipe ⟨x, y⟩ ⟨x', y'⟩ duration).guarded
  | .scroll, direction :: more => do
    let direction ← Direction.ofName? (String.ofList (lower direction))
    let duration ← durationArgument? settings.scrollDuration more
    (Command.scroll direction duration).guarded
  | .input, _ :: _ => some (.typeText (String.ofList rest) false false)
  | .wait, duration :: _ => do
    let duration ← integerArgument? duration
    (Command.wait duration).guarded
  | .press button, _ => some (.press button)
  | _, _ => none

/-- The command of a line, if it is one. -/
def ofLine? (settings : Settings) (line : List Char) : Option Command :=
  match words line with
  | [] => none
  | word :: arguments =>
    match Keyword.ofWord? word with
    | none => none
    | some keyword => ofArguments? settings (afterFirstWord (trim line)) keyword arguments

end Command

end GestureScript
