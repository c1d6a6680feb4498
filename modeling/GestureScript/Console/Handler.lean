import GestureScript.Console.Argument.Reader
import GestureScript.Console.Argument.Value
import GestureScript.Text.Blank
import GestureScript.Text.Quoted

/-!
# Handlers

A tag whose name starts with an at sign names what is to be called when its text is
clicked. Its parameters are the name of a handler and its arguments in brackets, or
arguments alone. They are looked at when the tag is closed.
-/

set_option autoImplicit false

namespace GestureScript.Console.Handler

open Text

/-- The arguments of parameters without blanks around them. The name of a handler that
is given alone has none. -/
def arguments (cs : List Char) : List Char :=
  let rest := cs.dropWhile fun c => isWordChar c || c == '.'
  if rest.isEmpty then "()".toList
  else if rest.head? == some '(' && rest.getLast? == some ')' then rest
  else cs

/-- What is wrong with parameters. -/
inductive Fault where
  | malformed (arguments parameters : List Char) (message : String)
  | value (parameters : List Char) (message : String)
  deriving DecidableEq, Repr

def Fault.message : Fault → String
  | .malformed arguments parameters message =>
    "error parsing " ++ String.ofList (quoted arguments) ++ " in " ++
      String.ofList (quoted parameters) ++ "; " ++ message
  | .value parameters message =>
    "error parsing " ++ String.ofList (quoted parameters) ++ "; " ++ message

/-- Look at the parameters of a tag. -/
def check (parameters : List Char) : Except Fault Unit :=
  let text := arguments (trim parameters)
  if text.contains '\x00' then
    .error (.value parameters "source code string cannot contain null bytes")
  else match Argument.read text with
    | .error message => .error (.malformed text parameters message)
    | .ok t =>
      match t.value with
      | .error f => .error (.value parameters f.message)
      | .ok _ => .ok ()

end GestureScript.Console.Handler
