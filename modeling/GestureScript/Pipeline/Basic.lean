import GestureScript.Capability.Worker
import GestureScript.Command.Script
import GestureScript.Monitor.Basic
import GestureScript.Pipeline.Status

/-!
# The pipeline

A pipeline hands commands over to the capability that is attached, and tells a
sink what becomes of them. Each dispatch is settled with one outcome, after the
sink was told of it. The trace holds all that can be observed, in order.
-/

set_option autoImplicit false

namespace GestureScript

structure Pipeline.Dispatch where
  command : Command
  /-- Did it get past the first look at the capability? -/
  handedOver : Bool := false
  outcome : Option Outcome := none

inductive Pipeline.Event where
  /-- The sink was told a status, of a dispatch or of a line that is no command. -/
  | told (dispatch : Option Nat) (s : Status)
  | called (c : DeviceCall)
  | paused (seconds : Binary64)
  | settled (dispatch : Nat) (o : Outcome)

structure Pipeline (σ : Type) where
  settings : Settings
  monitor : Monitor
  sink : Sink
  /-- Why a pause between commands cannot be made. -/
  pauseFault? : Binary64 → Option Fault := fun _ => none
  /-- All capabilities that were ever attached. -/
  fleet : List (Capability σ Nat) := []
  attached : Option Nat := none
  /-- All dispatches in order. Capabilities call back with the number of a dispatch. -/
  dispatches : List Pipeline.Dispatch := []
  trace : List Pipeline.Event := []

namespace Pipeline

variable {σ : Type}

/-- A pipeline with nothing attached. -/
def create? (settings : Settings) (sink : Sink) : Except Fault (Pipeline σ) :=
  match Monitor.create? settings.historySize with
  | none => .error .historyTooSmall
  | some monitor => .ok { settings := settings, monitor := monitor, sink := sink }

def record (e : Event) (p : Pipeline σ) : Pipeline σ := { p with trace := p.trace ++ [e] }

def recordCalls (cs : List DeviceCall) (p : Pipeline σ) : Pipeline σ :=
  { p with trace := p.trace ++ cs.map Event.called }

/-- Tell the sink a status. If it fails, it has heard the status all the same. -/
def tell (n : Option Nat) (s : Status) (p : Pipeline σ) : Except Unit Unit × Pipeline σ :=
  match p.sink with
  | .absent => (.ok (), p)
  | .listening fails => (if fails s then .error () else .ok (), p.record (.told n s))

/-- The failure of a sink stays with the sink. -/
def emit (n : Option Nat) (s : Status) (p : Pipeline σ) : Pipeline σ := (p.tell n s).2

/-! ## Attaching -/

def enlist (c : Capability σ Nat) (p : Pipeline σ) : Pipeline σ :=
  { p with fleet := p.fleet ++ [c] }

/-- Attach a new capability in place of the one before, or none. -/
def attach (c : Option (Capability σ Nat)) (p : Pipeline σ) : Pipeline σ :=
  match c with
  | none => { p with attached := none }
  | some c => { p.enlist c with attached := some p.fleet.length }

def attachedCapability? (p : Pipeline σ) : Option (Capability σ Nat) :=
  p.attached.bind (p.fleet[·]?)

def replace (i : Nat) (c : Capability σ Nat) (p : Pipeline σ) : Pipeline σ :=
  { p with fleet := p.fleet.set i c }

/-- The number of the capability that is attached, if it is ready. -/
def poll (w : Worker σ) (p : Pipeline σ) : Option Nat × Pipeline σ :=
  match p.attached with
  | none => (none, p)
  | some i =>
    match p.fleet[i]? with
    | none => (none, p)
    | some c =>
      let (ready, c) := c.poll w
      (if ready then some i else none, p.replace i c)

/-! ## Dispatches -/

/-- Keep the outcome of a dispatch for whoever waits for it. -/
def keep (n : Nat) (o : Outcome) (p : Pipeline σ) : Pipeline σ :=
  { p with dispatches := p.dispatches.modify n (fun d => { d with outcome := some o }) }

/-- Tell the sink the outcome of a dispatch, and then settle it. -/
def settle (p : Pipeline σ) (n : Nat) (o : Outcome) : Pipeline σ :=
  match p.dispatches[n]? with
  | none => p
  | some d => ((p.emit (some n) (.ended d.command o)).keep n o).record (.settled n o)

/-- Put a capability in its new state, and settle what its gate delivered since. -/
def advance (p : Pipeline σ) (i : Nat) (before after : Capability σ Nat) : Pipeline σ :=
  (after.gate.delivered.drop before.gate.delivered.length).foldl
    (fun p (n, o) => p.settle n o) (p.replace i after)

def markHandedOver (n : Nat) (p : Pipeline σ) : Pipeline σ :=
  { p with dispatches := p.dispatches.modify n (fun d => { d with handedOver := true }) }

def handOver (w : Worker σ) (i n : Nat) (c : Command) (p : Pipeline σ) : Pipeline σ :=
  match p.fleet[i]? with
  | none => p
  | some before =>
    let (calls, after) := before.submit w (.command c) (some (.to n))
    ((p.markHandedOver n).recordCalls calls).advance i before after

def addDispatch (c : Command) (p : Pipeline σ) : Pipeline σ :=
  { p with dispatches := p.dispatches ++ [{ command := c }] }

/-- Dispatch a command: the number of the dispatch is how many there were before. -/
def dispatch (w : Worker σ) (c : Command) (p : Pipeline σ) : Pipeline σ :=
  let n := p.dispatches.length
  match (p.addDispatch c).poll w with
  | (none, p) => p.settle n .notReady
  | (some i, p) => (p.emit (some n) (.dispatched c)).handOver w i n c

/-- Dispatch what may be no command, or one without a display form. -/
def dispatch? (w : Worker σ) (s : Submission) (p : Pipeline σ) : Except Fault (Pipeline σ) :=
  match s with
  | .command c => if c.isDisplayable then .ok (p.dispatch w c) else .error .integerTooLong
  | .other typeName => .error (.unsupportedCommand typeName)

/-- Dispatch the command on a line, if there is one. -/
def submitLine (w : Worker σ) (line : String) (p : Pipeline σ) : Bool × Pipeline σ :=
  match Command.ofLine? p.settings line.toList with
  | some c => (true, p.dispatch w c)
  | none => (false, p.emit none (.notUnderstood line))

/-- The outcome of the latest dispatch, if it is settled. -/
def lastOutcome? (p : Pipeline σ) : Option Outcome := p.dispatches.getLast?.bind (·.outcome)

/-! ## Late endings -/

/-- Let the performance go on that a capability holds. -/
def letGo (p : Pipeline σ) (i : Nat) : Pipeline σ :=
  match p.fleet[i]? with
  | none => p
  | some c => p.advance i c c.letGo

def letAllGo (p : Pipeline σ) : Pipeline σ := (List.range p.fleet.length).foldl letGo p

/-- Stop the capability that is attached, and forget the screen. -/
def shutDown (p : Pipeline σ) : Pipeline σ :=
  let stopped :=
    match p.attached with
    | none => p
    | some i =>
      match p.fleet[i]? with
      | none => p
      | some c => p.advance i c c.shutDown
  { stopped with monitor := stopped.monitor.reset }

/-! ## Views -/

def Event.status? : Event → Option Status
  | .told _ s => some s
  | _ => none

/-- Pauses count as calls of the clock. -/
def Event.call? : Event → Option DeviceCall
  | .called c => some c
  | .paused s => some (.sleep s)
  | _ => none

def statuses (p : Pipeline σ) : List Status := p.trace.filterMap Event.status?

def calls (p : Pipeline σ) : List DeviceCall := p.trace.filterMap Event.call?

/-! ## What the operations keep -/

@[simp] theorem trace_record (e : Event) (p : Pipeline σ) :
    (p.record e).trace = p.trace ++ [e] := rfl

@[simp] theorem dispatches_record (e : Event) (p : Pipeline σ) :
    (p.record e).dispatches = p.dispatches := rfl

@[simp] theorem fleet_record (e : Event) (p : Pipeline σ) : (p.record e).fleet = p.fleet := rfl

@[simp] theorem trace_recordCalls (cs : List DeviceCall) (p : Pipeline σ) :
    (p.recordCalls cs).trace = p.trace ++ cs.map Event.called := rfl

theorem emit_absent {p : Pipeline σ} (h : p.sink = .absent) (n : Option Nat) (s : Status) :
    p.emit n s = p := by simp [emit, tell, h]

/-- A listening sink hears every status, whether it fails or not. -/
theorem emit_listening {p : Pipeline σ} {fails : Status → Bool} (h : p.sink = .listening fails)
    (n : Option Nat) (s : Status) : p.emit n s = p.record (.told n s) := by
  simp [emit, tell, h]

@[simp] theorem dispatches_emit (p : Pipeline σ) (n : Option Nat) (s : Status) :
    (p.emit n s).dispatches = p.dispatches := by
  cases h : p.sink with
  | absent => rw [emit_absent h]
  | listening fails => rw [emit_listening h, dispatches_record]

@[simp] theorem fleet_emit (p : Pipeline σ) (n : Option Nat) (s : Status) :
    (p.emit n s).fleet = p.fleet := by
  cases h : p.sink with
  | absent => rw [emit_absent h]
  | listening fails => rw [emit_listening h, fleet_record]

end Pipeline

end GestureScript
