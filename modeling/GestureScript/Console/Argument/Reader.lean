import GestureScript.Console.Argument.Grammar
import GestureScript.Console.Argument.Lexer

/-!
# Reading expressions

A text is searched for an expression, and if it is none, it is searched once more
for what to complain of. A break that comes first is told in place of a complaint
about the tokens in front of it. What is wrong with an expression in a template is
told as such.
-/

set_option autoImplicit false

namespace GestureScript.Console.Argument

/-- How expressions are read. -/
structure Reader where
  /-- What stands in front of complaints. -/
  heading : String
  /-- The rule that a whole text has to fit. -/
  start : Rule
  /-- What is wrong with an expression in a template. -/
  wrongField? : List Char → Option String

namespace Reader

/-- What is said of a text in which something does not fit. -/
def overruled (broken : Option Break) (message : String) : String :=
  ((broken.filter (·.comesFirst)).map (·.message)).getD message

def complaint (r : Reader) (broken : Option Break) : Complaint → String
  | .here message => overruled broken (r.heading ++ message)
  | .inField message => overruled broken message

def stop (r : Reader) (broken : Option Break) : Stop → String
  | .atBreak b => if b.comesFirst then b.message else r.heading ++ b.message
  | .complaint c => r.complaint broken c

/-- What is wrong with a text that is no expression. -/
def reason (r : Reader) (s : Search Rule) : String :=
  match s.run true r.start with
  | .stopped stop => r.stop s.broken stop
  | _ => r.complaint s.broken (.here "invalid syntax")

/-- The expression that a text is, or what is wrong with it. -/
def read (r : Reader) (cs : List Char) : Except String Tree :=
  let (tokens, broken) := Lexer.tokens cs
  let s : Search Rule := ⟨Rule.grammar r.wrongField?, tokens.toArray, broken⟩
  match s.run false r.start with
  | .found (t :: _) _ => .ok t
  | .stopped stop => .error (r.stop broken stop)
  | _ => .error (r.reason s)

end Reader

/-- What is wrong with an expression in a template, which is read in brackets. No
template is nested deeper than `bound`. -/
def wrongField? (bound : Nat) (cs : List Char) : Option String :=
  match bound with
  | 0 => none
  | bound + 1 =>
    let r : Reader := ⟨"f-string: ", .starExpressions, wrongField? bound⟩
    match r.read ('(' :: cs ++ [')']) with
    | .error message => some message
    | .ok _ => none

/-- The expression that a text is, or what is wrong with it. -/
def read (cs : List Char) : Except String Tree :=
  Reader.read ⟨"", .whole, wrongField? cs.length⟩ cs

end GestureScript.Console.Argument
