import GestureScript.Binary64.Reader
import GestureScript.Settings.Basic
import GestureScript.Text.Blank

/-!
# Settings from the environment

Each field has a variable. A variable that is unset, empty or not convertible
leaves the default. Keys are written with plus signs in between.
-/

set_option autoImplicit false

namespace GestureScript

/-- The values of the variables that are set. -/
abbrev Environment := String → Option String

namespace Settings

open Text

/-- The name of the variable of a field. -/
def Field.variableName (f : Field) : String :=
  "SCREENPILOT_" ++ String.ofList (f.name.toList.map Char.toUpper)

/-- Keys between plus signs, without the blanks around them. Empty ones are left out. -/
def keysOfText (cs : List Char) : List String :=
  (((splitOn '+' cs).map trim).filter (fun k => !k.isEmpty)).map String.ofList

/-- Read a value for a field that holds one like `current`. -/
def Value.ofText? (current : Value) (cs : List Char) : Option Value :=
  match current with
  | .whole _ => (Numeral.readLoose? cs).map .whole
  | .seconds _ => (Binary64.readLoose? cs).map .seconds
  | .keys _ => some (.keys (keysOfText cs))

/-- The value that a variable gives to a field, if it gives one. It is of the kind of the
default, which is the same on all platforms. -/
def Field.fromEnvironment? (f : Field) (env : Environment) : Option Value :=
  match env f.variableName with
  | none => none
  | some raw => if raw.isEmpty then none else Value.ofText? (Settings.default.get f) raw.toList

def override (env : Environment) (s : Settings) (f : Field) : Settings :=
  match f.fromEnvironment? env with
  | some v => s.set f v
  | none => s

def ofEnvironment (platform : Platform) (env : Environment) : Settings :=
  Field.all.foldl (override env) (default platform)

end Settings

end GestureScript
