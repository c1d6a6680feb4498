import GestureScript.Command.Grammar
import GestureScript.Text.Lines

/-!
# Scripts

A script is a text with a command on each line. Blank lines, comments and lines
that are no command are passed over.
-/

set_option autoImplicit false

namespace GestureScript.Script

open Text

/-- Is there nothing to read on a trimmed line? -/
def isSkipped : List Char → Bool
  | [] => true
  | c :: _ => c == '#'

def commandOf? (settings : Settings) (line : List Char) : Option Command :=
  if isSkipped (trim line) then none else Command.ofLine? settings (trim line)

/-- The commands of a script, in order. -/
def commands (settings : Settings) (script : String) : List Command :=
  (lines script.toList).filterMap (commandOf? settings)

end GestureScript.Script
