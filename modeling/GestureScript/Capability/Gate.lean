import GestureScript.Command.Basic
import GestureScript.Outcome.Basic

/-!
# The gate of a capability

A gate lets one command at a time through to a worker. Every call is answered by
exactly one outcome: a rejected call at once, an accepted one when its
performance ends. `Gate.Step` is all that can happen to a gate.
-/

set_option autoImplicit false

namespace GestureScript

/-- What is handed over: a command, or a value of another type. -/
inductive Submission where
  | command (c : Command)
  | other (typeName : String)
  deriving DecidableEq, Repr

/-- How a performance ends. -/
inductive Ending where
  | returned (o : Outcome)
  | returnedOther (typeName : String)
  | raised (f : Fault)
  deriving Repr

def Ending.outcome : Ending → Outcome
  | .returned o => o
  | .returnedOther typeName => .ofFault (.notAResult typeName)
  | .raised f => .ofFault f

/-- Whoever is called back with an outcome. It may fail on any of them. -/
structure Gate.Callback (κ : Type) where
  target : κ
  fails : Outcome → Bool

/-- A callback that does not fail. -/
def Gate.Callback.to {κ : Type} (target : κ) : Gate.Callback κ := ⟨target, fun _ => false⟩

/-- A call with the callback that was given with it. -/
structure Gate.Call (κ : Type) where
  submission : Submission
  callback : Option (Gate.Callback κ)
  outcome : Option Outcome := none
  /-- The outcomes that the callback was called with. -/
  told : List Outcome := []

structure Gate (κ : Type) where
  locked : Bool := false
  stopped : Bool := false
  /-- The accepted calls whose performance has not ended, oldest first. -/
  running : List Nat := []
  /-- All calls in the order in which they were made. -/
  calls : List (Gate.Call κ) := []
  /-- All calls of callbacks, in order. -/
  delivered : List (κ × Outcome) := []

namespace Gate

variable {κ : Type}

/-- Take the lock, if it is free. -/
def acquire? (g : Gate κ) : Option (Gate κ) :=
  if g.locked then none else some { g with locked := true }

def release (g : Gate κ) : Gate κ := { g with locked := false }

def Call.resolve (o : Outcome) (c : Call κ) : Call κ :=
  { c with
    outcome := some o
    told := if c.callback.isSome then c.told ++ [o] else c.told }

def deliver (g : Gate κ) (k : Callback κ) (o : Outcome) : Gate κ :=
  { g with delivered := g.delivered ++ [(k.target, o)] }

/-- Call back with an outcome. If the callback fails, it was called all the same. -/
def callBack (g : Gate κ) (k : Callback κ) (o : Outcome) : Except Unit Unit × Gate κ :=
  (if k.fails o then .error () else .ok (), g.deliver k o)

/-- Give a call its outcome, and pass it to the callback. The failure of a callback
stays with the callback. -/
def resolve (g : Gate κ) (i : Nat) (o : Outcome) : Gate κ :=
  let resolved := { g with calls := g.calls.modify i (Call.resolve o) }
  match g.calls[i]?.bind (·.callback) with
  | none => resolved
  | some k => (resolved.callBack k o).2

def addCall (g : Gate κ) (s : Submission) (callback : Option (Callback κ)) : Gate κ :=
  { g with calls := g.calls ++ [{ submission := s, callback := callback }] }

/-- Answer a call at once. -/
def reject (g : Gate κ) (s : Submission) (callback : Option (Callback κ)) (o : Outcome) : Gate κ :=
  (g.addCall s callback).resolve g.calls.length o

/-- Hand a command to the worker. -/
def start (g : Gate κ) (c : Command) (callback : Option (Callback κ)) : Gate κ :=
  { g.addCall (.command c) callback with running := g.running ++ [g.calls.length] }

/-- A call: the command that the worker has to perform, if it is accepted. -/
def submit (g : Gate κ) (s : Submission) (ready : Bool) (callback : Option (Callback κ)) :
    Gate κ × Option Command :=
  if !ready then (g.reject s callback .notReady, none)
  else match s with
    | .other typeName => (g.reject s callback (.unsupported typeName), none)
    | .command c =>
      match g.acquire? with
      | none => (g.reject s callback .busy, none)
      | some g =>
        if g.stopped then (g.release.reject s callback .shutDown, none)
        else (g.start c callback, some c)

/-- The performance of the oldest accepted call ends. -/
def finish (g : Gate κ) (ending : Ending) : Gate κ :=
  match g.running with
  | [] => g
  | i :: rest => ({ g with running := rest }.release).resolve i ending.outcome

def stop (g : Gate κ) : Gate κ := { g with stopped := true }

inductive Step (κ : Type) where
  | submit (s : Submission) (ready : Bool) (callback : Option (Callback κ))
  | finish (ending : Ending)
  | stop
  /-- Stop, and wait for the performance in progress, if there is one. -/
  | stopAndWait (ending : Ending)

def step (g : Gate κ) : Step κ → Gate κ
  | .submit s ready callback => (g.submit s ready callback).1
  | .finish ending => g.finish ending
  | .stop => g.stop
  | .stopAndWait ending => g.stop.finish ending

def run (g : Gate κ) (steps : List (Step κ)) : Gate κ := steps.foldl step g

theorem delivered_resolve (g : Gate κ) (i : Nat) (o : Outcome) :
    (g.resolve i o).delivered =
      g.delivered ++ ((g.calls[i]?.bind (·.callback)).map fun k => (k.target, o)).toList := by
  unfold resolve
  cases h : g.calls[i]?.bind (·.callback) with
  | none => simp
  | some k => simp [callBack, deliver]

@[simp] theorem calls_resolve (g : Gate κ) (i : Nat) (o : Outcome) :
    (g.resolve i o).calls = g.calls.modify i (Call.resolve o) := by
  unfold resolve
  split <;> simp [callBack, deliver]

@[simp] theorem run_nil (g : Gate κ) : g.run [] = g := rfl

@[simp] theorem run_cons (g : Gate κ) (s : Step κ) (ss : List (Step κ)) :
    g.run (s :: ss) = (g.step s).run ss := rfl

theorem run_append (g : Gate κ) (ss ts : List (Step κ)) :
    g.run (ss ++ ts) = (g.run ss).run ts := by simp [run]

end Gate

end GestureScript
