import GestureScript.Command.Basic
import GestureScript.Numeral

/-!
# The display form of a command

One short line that names the action. It tells neither the duration of a gesture
nor what happens before and after typing. Commands with integers that are too long
to be written have none, and are handed over to nobody.
-/

set_option autoImplicit false

namespace GestureScript

def Point.display (p : Point) : List Char :=
  '(' :: Numeral.written p.x ++ ", ".toList ++ Numeral.written p.y ++ [')']

/-- The points of a tap, with a comma and a blank in between. -/
def Point.displayAll : List Point → List Char
  | [] => []
  | [p] => p.display
  | p :: ps => p.display ++ ", ".toList ++ displayAll ps

namespace Command

def displayChars : Command → List Char
  | .tap points _ => "Tap at ".toList ++ Point.displayAll points
  | .swipe start finish _ =>
    "Swipe from ".toList ++ start.display ++ " to ".toList ++ finish.display
  | .scroll direction _ => "Scroll ".toList ++ direction.label.toList
  | .typeText text _ _ => "Input: \"".toList ++ text.toList ++ ['"']
  | .wait duration => "Wait ".toList ++ Numeral.written duration ++ "ms".toList
  | .press button => "Press ".toList ++ button.label.toList

/-- The integers in the display form. -/
def shownIntegers : Command → List Int
  | .tap points _ => points.flatMap fun p => [p.x, p.y]
  | .swipe start finish _ => [start.x, start.y, finish.x, finish.y]
  | .wait duration => [duration]
  | .scroll .. | .typeText .. | .press _ => []

def isDisplayable (c : Command) : Bool := c.shownIntegers.all Numeral.isWritable

def display (c : Command) : String := String.ofList c.displayChars

@[simp] theorem toList_display (c : Command) : c.display.toList = c.displayChars := by
  simp [display]

end Command

end GestureScript
