import GestureScript.Console.Options
import GestureScript.Text.Quoted

/-!
# Sources of scripts

A script is read from a file, or from the standard input. A file may turn out to
be unreadable, or not to be text.
-/

set_option autoImplicit false

namespace GestureScript.Console

inductive Source where
  | standardInput
  | file (path : String)
  deriving DecidableEq, Repr

/-- A lone dash stands for the standard input. -/
def Options.source (o : Options) : Source :=
  match o.path with
  | none => .standardInput
  | some path => if path = "-" then .standardInput else .file path

/-- Why a file cannot be opened. -/
inductive FileFault where
  | forbidden
  | missing
  | notDirectory
  | isDirectory
  | nameTooLong
  deriving DecidableEq, Repr

namespace FileFault

def number : FileFault → Nat
  | .forbidden => 13
  | .missing => 2
  | .notDirectory => 20
  | .isDirectory => 21
  | .nameTooLong => 36

def text : FileFault → String
  | .forbidden => "Permission denied"
  | .missing => "No such file or directory"
  | .notDirectory => "Not a directory"
  | .isDirectory => "Is a directory"
  | .nameTooLong => "File name too long"

def message (f : FileFault) (path : String) : String :=
  "[Errno " ++ toString f.number ++ "] " ++ f.text ++ ": " ++
    String.ofList (Text.quoted path.toList)

end FileFault

/-- What was found at a source. -/
inductive Contents where
  | script (text : String)
  /-- Bytes that are no text. -/
  | notText
  | unreadable (path : String) (f : FileFault)
  /-- A path with a null character leads nowhere. -/
  | nowhere
  deriving DecidableEq, Repr

end GestureScript.Console
