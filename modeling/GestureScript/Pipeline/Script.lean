import GestureScript.Binary64.Shortest
import GestureScript.Pipeline.Basic

/-!
# Running scripts

The commands of a script are dispatched one after the other, with a pause in
between. Each is waited for, but not longer than the settings allow. A pause or a
wait that the clock does not make breaks off the run.
-/

set_option autoImplicit false

namespace GestureScript.Pipeline

variable {σ : Type}

def timedOut (limit : Binary64) : Outcome :=
  .failure ⟨"No result within " ++ String.ofList (limit.text Binary64.messageStyle) ++ "s",
    some .timedOut, .timeout⟩

/-- Dispatch a command and wait for its outcome. If there is none yet when the dispatch returns,
then its performance outlasts the wait, or the clock makes no wait for it. -/
def carryOut (w : Worker σ) (c : Command) (p : Pipeline σ) : Except Fault Outcome × Pipeline σ :=
  let after := p.dispatch w c
  match after.lastOutcome? with
  | some o => (.ok o, after)
  | none =>
    match Clock.waitFault? p.settings.resultTimeout with
    | some f => (.error f, after)
    | none => (.ok (timedOut p.settings.resultTimeout), after)

def pause (p : Pipeline σ) : Except Fault Unit × Pipeline σ :=
  let delay := p.settings.commandDelay
  if delay.isPositive then
    match p.pauseFault? delay with
    | some f => (.error f, p)
    | none => (.ok (), p.record (.paused delay))
  else (.ok (), p)

/-- Carry out commands, to the first failure or to the end. -/
def runCommands (w : Worker σ) (stopOnFailure : Bool) :
    List Command → Pipeline σ → Except Fault (List Outcome) × Pipeline σ
  | [], p => (.ok [], p)
  | c :: cs, p =>
    match p.carryOut w c with
    | (.error f, p) => (.error f, p)
    | (.ok o, p) =>
      if stopOnFailure && o.isFailure || cs.isEmpty then (.ok [o], p)
      else
        match p.pause with
        | (.error f, p) => (.error f, p)
        | (.ok (), p) =>
          let (os, p) := runCommands w stopOnFailure cs p
          (os.map (o :: ·), p)

def runScript (w : Worker σ) (stopOnFailure : Bool) (script : String) (p : Pipeline σ) :
    Except Fault (List Outcome) × Pipeline σ :=
  runCommands w stopOnFailure (Script.commands p.settings script) p

@[simp] theorem runCommands_nil (w : Worker σ) (stop : Bool) (p : Pipeline σ) :
    runCommands w stop [] p = (.ok [], p) := rfl

end GestureScript.Pipeline
