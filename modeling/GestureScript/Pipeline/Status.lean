import GestureScript.Command.Display
import GestureScript.Outcome.Basic
import GestureScript.Text.Blank
import GestureScript.Text.Quoted

/-!
# Statuses

A status tells a reader what became of a line: it was not understood, or its
command was handed over, and then succeeded or failed.
-/

set_option autoImplicit false

namespace GestureScript

inductive StatusKind where
  | notUnderstood
  | dispatched
  | succeeded
  | failed
  deriving DecidableEq, Repr

namespace StatusKind

def all : List StatusKind := [.notUnderstood, .dispatched, .succeeded, .failed]

def name : StatusKind → String
  | .notUnderstood => "not_understood"
  | .dispatched => "dispatched"
  | .succeeded => "succeeded"
  | .failed => "failed"

/-- The name in capitals. -/
def constant (k : StatusKind) : String := String.ofList (k.name.toList.map Char.toUpper)

@[simp] theorem mem_all (k : StatusKind) : k ∈ all := by cases k <;> decide

end StatusKind

structure Status where
  kind : StatusKind
  message : String
  display : Option String
  errorKind : Option ErrorKind
  deriving DecidableEq, Repr

namespace Status

/-- The line is shown without the blanks around it. -/
def notUnderstood (line : String) : Status where
  kind := .notUnderstood
  message := "Could not understand: " ++ String.ofList (Text.quoted (Text.trim line.toList))
  display := none
  errorKind := none

def dispatched (c : Command) : Status where
  kind := .dispatched
  message := "Executing: " ++ c.display
  display := some c.display
  errorKind := none

def ended (c : Command) (o : Outcome) : Status where
  kind := if o.isSuccess then .succeeded else .failed
  message := o.description
  display := some c.display
  errorKind := o.errorKind?

end Status

/-- Whoever is told statuses. It may fail on any of them. -/
inductive Sink where
  | absent
  | listening (fails : Status → Bool)

end GestureScript
