import GestureScript.Pipeline.Script
import GestureScript.Proofs.Capability.Gate

/-!
# The two threads of a run

`runCommands` dispatches a command and has its outcome at once. In truth two threads
take part in it: the client that runs the commands, and the one that performs them.
`Threads.step` makes the next step of either, each as small as the threads can be
interrupted; a thread that has to wait makes none. A wait of the client is not broken
off.
-/

set_option autoImplicit false

namespace GestureScript

namespace Gate

variable {κ : Type}

/-- A call has its outcome. Nobody was called back yet. -/
def fill (g : Gate κ) (j : Nat) (o : Outcome) : Gate κ :=
  { g with calls := g.calls.modify j fun call => { call with outcome := some o } }

/-- Attach a callback to a call. -/
def addCallback (g : Gate κ) (j : Nat) (k : Callback κ) : Gate κ :=
  { g with calls := g.calls.modify j fun call => { call with callback := some k } }

/-- The callback of a call is called with its outcome. -/
def hear (g : Gate κ) (j : Nat) (k : Callback κ) (o : Outcome) : Gate κ :=
  let heard :=
    { g with calls := g.calls.modify j fun call => { call with told := call.told ++ [o] } }
  heard.deliver k o

end Gate

namespace Pipeline

/-- What the client does next. The numbers are those of a dispatch and of its call. -/
inductive Client where
  | ready
  | acquiring (n : Nat) (c : Command)
  | submitting (n : Nat) (c : Command)
  | attaching (n j : Nat)
  | telling (n j : Nat) (o : Outcome)
  | reporting (n : Nat) (o : Outcome)
  | waiting (n : Nat)
  | pausing
  | done
  | broken (f : Fault)

/-- What the thread of the worker does next. -/
inductive Performer where
  | idle
  | performing (j : Nat) (c : Command)
  | releasing (j : Nat) (o : Outcome)
  | completing (j : Nat) (o : Outcome)
  | telling (n j : Nat) (o : Outcome)
  | reporting (n : Nat) (o : Outcome)

/-- Which of the threads makes a step. -/
inductive Thread where
  | client
  | performer

/-- The capability in use stands apart from the pipeline that it is attached to. -/
structure Threads (σ : Type) where
  pipeline : Pipeline σ
  capability : Capability σ Nat
  client : Client := .ready
  performer : Performer := .idle
  todo : List Command
  results : List Outcome := []

namespace Threads

variable {σ : Type}

/-- The client is about to run some commands. -/
def start (p : Pipeline σ) (cap : Capability σ Nat) (cs : List Command) : Threads σ where
  pipeline := p
  capability := cap
  todo := cs

def withGate (s : Threads σ) (g : Gate Nat) : Threads σ :=
  { s with capability := { s.capability with gate := g } }

/-- Give a call its outcome instead of accepting it. -/
def refuse (s : Threads σ) (n : Nat) (c : Command) (o : Outcome) : Threads σ :=
  let g := s.capability.gate
  { s.withGate ((g.addCall (.command c) none).fill g.calls.length o) with
    client := .attaching n g.calls.length }

/-- The callback begins: it tells the sink the outcome of a dispatch. -/
def tell (s : Threads σ) (n j : Nat) (o : Outcome) : Threads σ :=
  let s := s.withGate (s.capability.gate.hear j (.to n) o)
  match s.pipeline.dispatches[n]? with
  | none => s
  | some d => { s with pipeline := s.pipeline.emit (some n) (.ended d.command o) }

/-- The callback ends: whoever waits for the dispatch gets the outcome. -/
def report (s : Threads σ) (n : Nat) (o : Outcome) : Threads σ :=
  { s with pipeline := (s.pipeline.keep n o).record (.settled n o) }

def dispatchNext (w : Worker σ) (s : Threads σ) (c : Command) (cs : List Command) : Threads σ :=
  let n := s.pipeline.dispatches.length
  let pipeline := s.pipeline.addDispatch c
  match s.capability.poll w with
  | (true, capability) =>
    { s with
      todo := cs, capability := capability, client := .acquiring n c
      pipeline := (pipeline.emit (some n) (.dispatched c)).markHandedOver n }
  | (false, capability) =>
    { s with
      todo := cs, capability := capability, client := .waiting n
      pipeline := pipeline.settle n .notReady }

def acquire (w : Worker σ) (s : Threads σ) (n : Nat) (c : Command) : Threads σ :=
  match s.capability.poll w with
  | (false, capability) => { s with capability := capability }.refuse n c .notReady
  | (true, capability) =>
    let s := { s with capability := capability }
    match capability.gate.acquire? with
    | none => s.refuse n c .busy
    | some g => { s.withGate g with client := .submitting n c }

def submit (s : Threads σ) (n : Nat) (c : Command) : Threads σ :=
  let g := s.capability.gate
  if g.stopped then (s.withGate g.release).refuse n c .shutDown
  else { s.withGate (g.start c none) with client := .attaching n g.calls.length }

/-- If the call has its outcome already, the client itself calls back. -/
def attachTo (s : Threads σ) (n j : Nat) (outcome : Option Outcome) : Threads σ :=
  { s.withGate (s.capability.gate.addCallback j (.to n)) with
    client := outcome.elim (.waiting n) (.telling n j) }

def resume (stopOnFailure : Bool) (s : Threads σ) (o : Outcome) : Threads σ :=
  { s with
    results := s.results ++ [o]
    client := if stopOnFailure && o.isFailure || s.todo.isEmpty then .done else .pausing }

def clientStep? (w : Worker σ) (stopOnFailure : Bool) (s : Threads σ) : Option (Threads σ) :=
  match s.client with
  | .ready =>
    match s.todo with
    | [] => some { s with client := .done }
    | c :: cs => some (s.dispatchNext w c cs)
  | .acquiring n c => some (s.acquire w n c)
  | .submitting n c => some (s.submit n c)
  | .attaching n j => s.capability.gate.calls[j]?.map fun call => s.attachTo n j call.outcome
  | .telling n j o => some { s.tell n j o with client := .reporting n o }
  | .reporting n o => some { s.report n o with client := .waiting n }
  | .waiting n => (s.pipeline.dispatches[n]?.bind (·.outcome)).map (s.resume stopOnFailure)
  | .pausing =>
    match s.pipeline.pause with
    | (.error f, pipeline) => some { s with pipeline := pipeline, client := .broken f }
    | (.ok (), pipeline) => some { s with pipeline := pipeline, client := .ready }
  | .done | .broken _ => none

/-- Begin with the oldest call that was accepted. -/
def take? (s : Threads σ) : Option (Threads σ) :=
  match s.capability.gate.running with
  | [] => none
  | j :: _ =>
    s.capability.gate.calls[j]?.bind fun call =>
      match call.submission with
      | .command c => some { s with performer := .performing j c }
      | .other _ => none

def perform (w : Worker σ) (s : Threads σ) (j : Nat) (c : Command) : Threads σ :=
  let (attempt, state) := w.perform (.command c) s.capability.state
  { s with
    capability := { s.capability with state := state }
    pipeline := s.pipeline.recordCalls attempt.calls
    performer := .releasing j attempt.ending.outcome }

/-- If there is a callback already, the performer calls back. -/
def complete (s : Threads σ) (j : Nat) (o : Outcome) : Threads σ :=
  let g := s.capability.gate
  { s.withGate { g.fill j o with running := g.running.tail } with
    performer :=
      (g.calls[j]?.bind (·.callback)).elim .idle fun k => .telling k.target j o }

def performerStep? (w : Worker σ) (s : Threads σ) : Option (Threads σ) :=
  match s.performer with
  | .idle => s.take?
  | .performing j c => some (s.perform w j c)
  | .releasing j o =>
    some { s.withGate s.capability.gate.release with performer := .completing j o }
  | .completing j o => some (s.complete j o)
  | .telling n j o => some { s.tell n j o with performer := .reporting n o }
  | .reporting n o => some { s.report n o with performer := .idle }

def step? (w : Worker σ) (stopOnFailure : Bool) (s : Threads σ) : Thread → Option (Threads σ)
  | .client => s.clientStep? w stopOnFailure
  | .performer => s.performerStep? w

/-- A thread that cannot go on leaves all as it is. -/
def step (w : Worker σ) (stopOnFailure : Bool) (s : Threads σ) (t : Thread) : Threads σ :=
  (s.step? w stopOnFailure t).getD s

/-- The threads take turns in any order. -/
def run (w : Worker σ) (stopOnFailure : Bool) (s : Threads σ) (turns : List Thread) : Threads σ :=
  turns.foldl (step w stopOnFailure) s

/-- What the client returned, if it did. -/
def answer? (s : Threads σ) : Option (Except Fault (List Outcome)) :=
  match s.client with
  | .done => some (.ok s.results)
  | .broken f => some (.error f)
  | _ => none

@[simp] theorem run_nil (w : Worker σ) (stopOnFailure : Bool) (s : Threads σ) :
    s.run w stopOnFailure [] = s := rfl

@[simp] theorem run_cons (w : Worker σ) (stopOnFailure : Bool) (s : Threads σ) (t : Thread)
    (turns : List Thread) :
    s.run w stopOnFailure (t :: turns) = (s.step w stopOnFailure t).run w stopOnFailure turns := rfl

end Threads

end Pipeline

end GestureScript
