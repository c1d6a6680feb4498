import GestureScript.Pipeline.Script
import Mathlib.Logic.Function.Basic

/-!
# Traffic at a pipeline

A dispatch looks for a capability, tells the sink, and hands its command over. Others
may do as they like between the look and the call: attach, call, stop and let go on, or
dispatch as well. A `Move` is one of the halves of a dispatch, or one thing that others
do. All that a pipeline does is made of moves.
-/

set_option autoImplicit false

namespace GestureScript.Pipeline

variable {σ : Type}

/-! ## What others do -/

/-- Someone calls a capability, and keeps to themselves what they hear of it. -/
def callAside (w : Worker σ) (i : Nat) (s : Submission) (p : Pipeline σ) : Pipeline σ :=
  match p.fleet[i]? with
  | none => p
  | some before =>
    let (calls, after) := before.submit w s none
    (p.recordCalls calls).advance i before after

def stop (i : Nat) (p : Pipeline σ) : Pipeline σ :=
  match p.fleet[i]? with
  | none => p
  | some c => p.advance i c c.shutDown

/-- The state of a worker changes by itself, and so does the ending of what it performs. -/
def alter (i : Nat) (st : σ) (ending : Ending) (p : Pipeline σ) : Pipeline σ :=
  match p.fleet[i]? with
  | none => p
  | some c => p.replace i { c with state := st, held := c.held.map fun _ => ending }

/-- Attach a capability that exists already, or none. -/
def reattach (i : Option Nat) (p : Pipeline σ) : Pipeline σ :=
  { p with attached := i.filter (· < p.fleet.length) }

/-! ## Moves -/

inductive Move (σ : Type) where
  /-- The first half of a dispatch, up to its call. -/
  | ask (c : Command)
  | askLine (line : String)
  /-- The second half of the dispatch with that number. -/
  | handOver (n : Nat)
  | create (st : σ)
  | attach (i : Option Nat)
  | callAside (i : Nat) (s : Submission)
  | alter (i : Nat) (st : σ) (ending : Ending)
  | letGo (i : Nat)
  | stop (i : Nat)
  | shutDown
  | pause

/-- Is the move made by others, and not by a client that dispatches or pauses? -/
def Move.isAside : Move σ → Bool
  | .ask _ | .askLine _ | .handOver _ | .pause => false
  | _ => true

structure Traffic (σ : Type) where
  pipeline : Pipeline σ
  /-- The capability that a dispatch has yet to be handed to. -/
  waiting : Nat → Option Nat := fun _ => none
  /-- What each dispatch found when it looked for a capability that is ready. -/
  looks : List Bool := []

namespace Traffic

def ask (w : Worker σ) (c : Command) (t : Traffic σ) : Traffic σ :=
  let n := t.pipeline.dispatches.length
  match (t.pipeline.addDispatch c).poll w with
  | (none, p) => { t with pipeline := p.settle n .notReady, looks := t.looks ++ [false] }
  | (some i, p) =>
    { pipeline := p.emit (some n) (.dispatched c)
      waiting := Function.update t.waiting n (some i)
      looks := t.looks ++ [true] }

def askLine (w : Worker σ) (line : String) (t : Traffic σ) : Traffic σ :=
  match Command.ofLine? t.pipeline.settings line.toList with
  | some c => t.ask w c
  | none => { t with pipeline := t.pipeline.emit none (.notUnderstood line) }

def handOver (w : Worker σ) (n : Nat) (t : Traffic σ) : Traffic σ :=
  match t.waiting n, t.pipeline.dispatches[n]? with
  | some i, some d =>
    { t with
      pipeline := t.pipeline.handOver w i n d.command
      waiting := Function.update t.waiting n none }
  | _, _ => t

def step (w : Worker σ) (t : Traffic σ) : Move σ → Traffic σ
  | .ask c => t.ask w c
  | .askLine line => t.askLine w line
  | .handOver n => t.handOver w n
  | .create st => { t with pipeline := t.pipeline.enlist { state := st } }
  | .attach i => { t with pipeline := t.pipeline.reattach i }
  | .callAside i s => { t with pipeline := t.pipeline.callAside w i s }
  | .alter i st ending => { t with pipeline := t.pipeline.alter i st ending }
  | .letGo i => { t with pipeline := t.pipeline.letGo i }
  | .stop i => { t with pipeline := t.pipeline.stop i }
  | .shutDown => { t with pipeline := t.pipeline.shutDown }
  | .pause => { t with pipeline := t.pipeline.pause.2 }

def run (w : Worker σ) (t : Traffic σ) (moves : List (Move σ)) : Traffic σ :=
  moves.foldl (step w) t

@[simp] theorem run_nil (w : Worker σ) (t : Traffic σ) : t.run w [] = t := rfl

@[simp] theorem run_cons (w : Worker σ) (t : Traffic σ) (m : Move σ) (moves : List (Move σ)) :
    t.run w (m :: moves) = (t.step w m).run w moves := rfl

theorem run_append (w : Worker σ) (t : Traffic σ) (first second : List (Move σ)) :
    t.run w (first ++ second) = (t.run w first).run w second := by simp [run]

end Traffic

/-- The command that a move asks a dispatch for. -/
def Move.command? (settings : Settings) : Move σ → Option Command
  | .ask c => some c
  | .askLine line => Command.ofLine? settings line.toList
  | _ => none

/-- The line that a move did not get understood. -/
def Move.strayLine? (settings : Settings) : Move σ → Option String
  | .askLine line => if (Command.ofLine? settings line.toList).isNone then some line else none
  | _ => none

end GestureScript.Pipeline
