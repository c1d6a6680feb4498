import GestureScript.Capability.Gate
import GestureScript.Clock
import GestureScript.Command.Display
import GestureScript.Desktop.Call

/-!
# Capabilities

A worker says whether it is ready and performs commands; its own state is
abstract. A capability is a worker behind a gate. A worker may be held in the
middle of a performance, which then ends when it is let go on. Whether it is held
depends on how long it is waited for: that is its pace.
-/

set_option autoImplicit false

namespace GestureScript

/-- Is it none of the commands that have no display form? -/
def Submission.isDisplayable : Submission → Bool
  | .command c => c.isDisplayable
  | .other _ => true

/-- One performance: the device calls made in it, and how it ends. -/
structure Attempt where
  calls : List DeviceCall
  ending : Ending
  /-- Is it still in progress when whoever waits for it goes on? -/
  held : Bool

structure Worker (σ : Type) where
  isReady : σ → Bool × σ
  perform : Submission → σ → Attempt × σ

/-- When a performance ends, to a client that waits for its outcome. -/
inductive Pace where
  /-- Before the client begins to wait. -/
  | atOnce
  /-- While the client waits, if it does. -/
  | inTime
  /-- After the client went on. -/
  | late
  deriving DecidableEq, Repr

/-- Is a performance of that pace still in progress when the client goes on? It is waited for if
it was not over before, but only as far as the clock lets time pass. -/
def Pace.outlasts (limit : Binary64) : Pace → Bool
  | .atOnce => false
  | .inTime => !Clock.waits limit
  | .late => true

/-- The worker to a client that waits for up to so many seconds. -/
def Worker.paced {σ : Type} (limit : Binary64) (pace : Submission → σ → Pace) (w : Worker σ) :
    Worker σ where
  isReady := w.isReady
  perform s st :=
    let (attempt, state) := w.perform s st
    ({ attempt with held := attempt.held || (pace s st).outlasts limit }, state)

theorem Worker.paced_eq_self {σ : Type} {limit : Binary64} {pace : Submission → σ → Pace}
    (h : ∀ s st, (pace s st).outlasts limit = false) (w : Worker σ) : w.paced limit pace = w := by
  simp [paced, h]

structure Capability (σ κ : Type) where
  gate : Gate κ := {}
  state : σ
  /-- How the performance that is held will end. -/
  held : Option Ending := none

namespace Capability

variable {σ κ : Type}

/-- Is the worker ready? -/
def poll (w : Worker σ) (c : Capability σ κ) : Bool × Capability σ κ :=
  let (ready, state) := w.isReady c.state
  (ready, { c with state := state })

/-- Let the worker begin with a command that the gate accepted. -/
def begin (w : Worker σ) (command : Command) (c : Capability σ κ) :
    List DeviceCall × Capability σ κ :=
  let (attempt, state) := w.perform (.command command) c.state
  (attempt.calls,
    if attempt.held then { c with state := state, held := some attempt.ending }
    else { c with state := state, gate := c.gate.finish attempt.ending })

/-- Make a call, and wait for it unless it is held. -/
def submit (w : Worker σ) (s : Submission) (callback : Option (Gate.Callback κ))
    (c : Capability σ κ) : List DeviceCall × Capability σ κ :=
  let (ready, c) := c.poll w
  match c.gate.submit s ready callback with
  | (gate, none) => ([], { c with gate := gate })
  | (gate, some command) => begin w command { c with gate := gate }

/-- Make a call, unless it is for a command without a display form. Then nothing happens. -/
def submit? (w : Worker σ) (s : Submission) (callback : Option (Gate.Callback κ))
    (c : Capability σ κ) : Except Fault (List DeviceCall × Capability σ κ) :=
  if s.isDisplayable then .ok (c.submit w s callback) else .error .integerTooLong

/-- Let a performance that is held go on to its end. -/
def letGo (c : Capability σ κ) : Capability σ κ :=
  match c.held with
  | none => c
  | some ending => { c with gate := c.gate.finish ending, held := none }

/-- Accept no more calls, and wait for the one in progress. -/
def shutDown (c : Capability σ κ) : Capability σ κ := { c with gate := c.gate.stop }.letGo

/-- The outcome of the latest call, if it is known. -/
def lastOutcome? (c : Capability σ κ) : Option Outcome := c.gate.calls.getLast?.bind (·.outcome)

end Capability

end GestureScript
