import GestureScript.Json.Basic
import GestureScript.Outcome.Fault

/-!
# Outcomes

Every command that is handed over ends in one outcome: a success with a message
and perhaps details, or a failure with a reason and perhaps the fault behind it.
-/

set_option autoImplicit false

namespace GestureScript

structure Success where
  message : String
  metadata : Option (List (String × Json))
  deriving Repr

structure Failure where
  reason : String
  cause : Option Fault
  kind : ErrorKind
  deriving DecidableEq, Repr

inductive Outcome where
  | success (s : Success)
  | failure (f : Failure)
  deriving Repr

/-- The reason, followed by the cause when there is one. -/
def Failure.description (f : Failure) : String :=
  match f.cause with
  | some fault => f.reason ++ " (" ++ fault.message ++ ")"
  | none => f.reason

namespace Outcome

def isSuccess : Outcome → Bool
  | .success _ => true
  | .failure _ => false

def isFailure (o : Outcome) : Bool := !o.isSuccess

def description : Outcome → String
  | .success s => s.message
  | .failure f => f.description

def errorKind? : Outcome → Option ErrorKind
  | .success _ => none
  | .failure f => some f.kind

def notReadyReason : String := "Execution capability not ready"

def notReady : Outcome := .failure ⟨notReadyReason, none, .capabilityUnavailable⟩

def unsupported (typeName : String) : Outcome :=
  .failure ⟨"Unsupported command: " ++ typeName, some (.unsupportedCommand typeName), .invalidState⟩

def busy : Outcome := .failure ⟨"Another command is currently executing", none, .invalidState⟩

def shutDown : Outcome :=
  .failure ⟨"Execution capability has been shut down", some .shutDown, .capabilityUnavailable⟩

/-- A refusal keeps its kind and reason. Any other fault is unexpected. -/
def ofFault : Fault → Outcome
  | .refused kind reason => .failure ⟨reason, none, kind⟩
  | .refusedBecause kind reason cause => .failure ⟨reason, some cause, kind⟩
  | fault => .failure ⟨"Command execution failed", some fault, .unknown⟩

@[simp] theorem isFailure_success (s : Success) : isFailure (.success s) = false := rfl

@[simp] theorem isFailure_failure (f : Failure) : isFailure (.failure f) = true := rfl

theorem isFailure_eq (o : Outcome) : o.isFailure = o.errorKind?.isSome := by cases o <;> rfl

end Outcome

end GestureScript
