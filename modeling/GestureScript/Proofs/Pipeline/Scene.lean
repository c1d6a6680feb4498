import GestureScript.Proofs.Pipeline.Dispatch
import GestureScript.Proofs.Pipeline.Threads

/-!
# How the threads get through one command

A `Scene` is one command of a run, with the pipeline and the capability as they were
before it. `Phase` lists all that the two threads can come to while they are at it,
and `Scene.threads` has all that there is in each phase. Whichever thread goes on, a phase
leads to a next one, and at last to where the command is carried out.
-/

set_option autoImplicit false

namespace GestureScript.Pipeline

/-- Where the threads are with a command. The flag says whether the callback was
attached before the call was completed, so that the performer calls back. -/
inductive Phase where
  | acquiring
  | submitting
  | queued (attached : Bool)
  | performing (attached : Bool)
  | releasing (attached : Bool)
  | completing (attached : Bool)
  | completed
  | telling (attached : Bool)
  | reporting (attached : Bool)
  | reported

namespace Phase

/-- Where a step of a thread leads, as long as the command is not carried out. -/
@[simp] def next : Thread → Phase → Option Phase
  | .client, .acquiring => some .submitting
  | .client, .submitting => some (.queued false)
  | .client, .queued false => some (.queued true)
  | .client, .performing false => some (.performing true)
  | .client, .releasing false => some (.releasing true)
  | .client, .completing false => some (.completing true)
  | .client, .completed => some (.telling false)
  | .client, .telling false => some (.reporting false)
  | .client, .reporting false => some .reported
  | .performer, .queued attached => some (.performing attached)
  | .performer, .performing attached => some (.releasing attached)
  | .performer, .releasing attached => some (.completing attached)
  | .performer, .completing attached => some (if attached then .telling true else .completed)
  | .performer, .telling true => some (.reporting true)
  | .performer, .reporting true => some .reported
  | _, _ => none

/-- An upper bound of the steps that are left. -/
def rank : Phase → Nat
  | .acquiring => 10
  | .submitting => 9
  | .queued attached => if attached then 7 else 8
  | .performing attached => if attached then 6 else 7
  | .releasing attached => if attached then 5 else 6
  | .completing attached => if attached then 4 else 5
  | .completed => 4
  | .telling _ => 3
  | .reporting _ => 2
  | .reported => 1

theorem rank_next {t : Thread} {ph later : Phase} (h : ph.next t = some later) :
    later.rank < ph.rank := by
  cases ph with
  | acquiring | submitting | completed | reported => cases t <;> cases h <;> decide
  | queued attached | performing attached | releasing attached | completing attached
    | telling attached | reporting attached =>
    cases t <;> cases attached <;> cases h <;> decide

/-- There is always a thread that can go on. -/
theorem exists_next {ph : Phase} (hph : ph ≠ .reported) : ∃ t later, ph.next t = some later := by
  cases ph with
  | acquiring | submitting | completed => exact ⟨.client, _, rfl⟩
  | queued attached | performing attached | releasing attached | completing attached =>
    exact ⟨.performer, _, rfl⟩
  | telling attached | reporting attached =>
    cases attached
    · exact ⟨.client, _, rfl⟩
    · exact ⟨.performer, _, rfl⟩
  | reported => contradiction

@[simp] def locked : Phase → Bool
  | .submitting | .queued _ | .performing _ | .releasing _ => true
  | _ => false

/-- Is the outcome known to the sink, if it listens? -/
@[simp] def told : Phase → Bool
  | .reporting _ | .reported => true
  | _ => false

end Phase

structure Scene (σ : Type) where
  worker : Worker σ
  pipeline : Pipeline σ
  capability : Capability σ Nat
  command : Command
  todo : List Command
  results : List Outcome

namespace Scene

variable {σ : Type} (s : Scene σ)

/-- The number of the dispatch. -/
def n : Nat := s.pipeline.dispatches.length

/-- The number of the call. -/
def j : Nat := s.capability.gate.calls.length

def attempt : Attempt := s.worker.attempt s.command s.capability.state

def outcome : Outcome := s.worker.outcome s.command s.capability.state

/-- The pipeline and the capability when the command is carried out. -/
def pipelineAfter : Pipeline σ := s.pipeline.served s.worker s.capability s.command

def capabilityAfter : Capability σ Nat := s.capability.served s.worker s.command s.n

@[simp] def client : Phase → Client
  | .acquiring => .acquiring s.n s.command
  | .submitting => .submitting s.n s.command
  | .queued attached | .performing attached | .releasing attached | .completing attached =>
    if attached then .waiting s.n else .attaching s.n s.j
  | .completed => .attaching s.n s.j
  | .telling attached => if attached then .waiting s.n else .telling s.n s.j s.outcome
  | .reporting attached => if attached then .waiting s.n else .reporting s.n s.outcome
  | .reported => .waiting s.n

@[simp] def performer : Phase → Performer
  | .performing _ => .performing s.j s.command
  | .releasing _ => .releasing s.j s.outcome
  | .completing _ => .completing s.j s.outcome
  | .telling attached => if attached then .telling s.n s.j s.outcome else .idle
  | .reporting attached => if attached then .reporting s.n s.outcome else .idle
  | _ => .idle

@[simp] def state : Phase → σ
  | .acquiring => (s.worker.isReady s.capability.state).2
  | .submitting | .queued _ | .performing _ => s.worker.polledTwice s.capability.state
  | _ => s.worker.after s.command s.capability.state

@[simp] def running : Phase → List Nat
  | .queued _ | .performing _ | .releasing _ | .completing _ => [s.j]
  | _ => []

/-- The call, once it was made. -/
@[simp] def calls : Phase → List (Gate.Call Nat)
  | .acquiring | .submitting => []
  | .queued attached | .performing attached | .releasing attached | .completing attached =>
    [⟨.command s.command, if attached then some (.to s.n) else none, none, []⟩]
  | .completed => [⟨.command s.command, none, some s.outcome, []⟩]
  | .telling _ => [⟨.command s.command, some (.to s.n), some s.outcome, []⟩]
  | .reporting _ | .reported => [⟨.command s.command, some (.to s.n), some s.outcome, [s.outcome]⟩]

def gate (ph : Phase) : Gate Nat where
  locked := ph.locked
  stopped := s.capability.gate.stopped
  running := s.running ph
  calls := s.capability.gate.calls ++ s.calls ph
  delivered := s.capability.gate.delivered ++ if ph.told then [(s.n, s.outcome)] else []

def dispatched : List Event := s.pipeline.sink.heard (some s.n) (.dispatched s.command)

def ended : List Event := s.pipeline.sink.heard (some s.n) (.ended s.command s.outcome)

@[simp] def events : Phase → List Event
  | .acquiring | .submitting | .queued _ | .performing _ => s.dispatched
  | .releasing _ | .completing _ | .completed | .telling _ =>
    s.dispatched ++ s.attempt.calls.map .called
  | .reporting _ => s.dispatched ++ s.attempt.calls.map .called ++ s.ended
  | .reported =>
    s.dispatched ++ s.attempt.calls.map .called ++ s.ended ++ [.settled s.n s.outcome]

@[simp] def settled : Phase → Option Outcome
  | .reported => some s.outcome
  | _ => none

/-- All there is in a phase. -/
def threads (ph : Phase) : Threads σ where
  pipeline :=
    { s.pipeline with
      dispatches := s.pipeline.dispatches ++ [⟨s.command, true, s.settled ph⟩]
      trace := s.pipeline.trace ++ s.events ph }
  capability := { s.capability with state := s.state ph, gate := s.gate ph }
  client := s.client ph
  performer := s.performer ph
  todo := s.todo
  results := s.results

/-! ## Steps -/

variable {s} {fit : σ → Prop}

/-- The callback begins on the same terms on either thread. -/
theorem tell_threads (attached : Bool) :
    (s.threads (.telling attached)).tell s.n s.j s.outcome =
      { s.threads (.reporting attached) with
        client := s.client (.telling attached)
        performer := s.performer (.telling attached) } := by
  have hgate : (s.gate (.telling attached)).hear s.j (.to s.n) s.outcome =
      s.gate (.reporting attached) := by
    simp [gate, Gate.hear, Gate.deliver, Gate.modify_length_append, j, Gate.Callback.to]
  have hlast : (s.pipeline.dispatches ++ [⟨s.command, true, none⟩])[s.n]? =
      some ⟨s.command, true, none⟩ := List.getElem?_concat_length
  simp [Threads.tell, Threads.withGate, threads, hgate, hlast, emit_eq, ended]

theorem report_threads (attached : Bool) :
    (s.threads (.reporting attached)).report s.n s.outcome =
      { s.threads .reported with
        client := s.client (.reporting attached)
        performer := s.performer (.reporting attached) } := by
  simp [Threads.report, threads, gate, keep, record, Gate.modify_length_append, n]

theorem clientStep?_waiting (stopOnFailure : Bool) {ph : Phase} (hph : ph ≠ .reported)
    (hclient : s.client ph = .waiting s.n) :
    (s.threads ph).clientStep? s.worker stopOnFailure = none := by
  have hsettled : s.settled ph = none := by
    cases ph with
    | reported => contradiction
    | _ => rfl
  have hwaiting : (s.threads ph).client = .waiting s.n := hclient
  have hlast : (s.threads ph).pipeline.dispatches[s.n]? = some ⟨s.command, true, s.settled ph⟩ :=
    List.getElem?_concat_length
  rw [Threads.clientStep?, hwaiting]
  simp only [hlast, hsettled, Option.bind_some, Option.map_none]

theorem performerStep?_idle {ph : Phase} (hperformer : s.performer ph = .idle)
    (hrunning : s.running ph = []) : (s.threads ph).performerStep? s.worker = none := by
  have hidle : (s.threads ph).performer = .idle := hperformer
  have hnone : (s.threads ph).capability.gate.running = [] := hrunning
  rw [Threads.performerStep?, hidle]
  simp only [Threads.take?, hnone]

theorem clientStep?_threads (hw : s.worker.Steady fit) (hfit : fit s.capability.state)
    (hfree : s.capability.gate.Free) (stopOnFailure : Bool) {ph : Phase} (hph : ph ≠ .reported) :
    (s.threads ph).clientStep? s.worker stopOnFailure = (ph.next .client).map s.threads := by
  cases ph with
  | acquiring =>
    have hready := hw.ready _ (hw.polled _ hfit)
    simp [Threads.clientStep?, threads, gate, Threads.acquire, Capability.poll, hready,
      Gate.acquire?, Threads.withGate, Worker.polledTwice]
  | submitting =>
    simp [Threads.clientStep?, threads, gate, Threads.submit, Threads.withGate, hfree.stopped,
      Gate.start, Gate.addCall, j]
  | queued attached | performing attached | releasing attached | completing attached =>
    cases attached with
    | false =>
      -- the call has no outcome yet
      simp [Threads.clientStep?, threads, gate, Threads.attachTo, Gate.addCallback,
        Gate.modify_length_append, j, Threads.withGate]
    | true => exact clientStep?_waiting stopOnFailure hph rfl
  | completed =>
    simp [Threads.clientStep?, threads, gate, Threads.attachTo, Gate.addCallback,
      Gate.modify_length_append, j, Threads.withGate]
  | telling attached =>
    cases attached with
    | false =>
      have hstep : (s.threads (.telling false)).clientStep? s.worker stopOnFailure =
          some { (s.threads (.telling false)).tell s.n s.j s.outcome with
            client := .reporting s.n s.outcome } := rfl
      rw [hstep, tell_threads]
      rfl
    | true => exact clientStep?_waiting stopOnFailure hph rfl
  | reporting attached =>
    cases attached with
    | false =>
      have hstep : (s.threads (.reporting false)).clientStep? s.worker stopOnFailure =
          some { (s.threads (.reporting false)).report s.n s.outcome with
            client := .waiting s.n } := rfl
      rw [hstep, report_threads]
      rfl
    | true => exact clientStep?_waiting stopOnFailure hph rfl
  | reported => contradiction

theorem performerStep?_threads (ph : Phase) :
    (s.threads ph).performerStep? s.worker = (ph.next .performer).map s.threads := by
  cases ph with
  | acquiring | submitting | completed | reported => exact performerStep?_idle rfl rfl
  | queued attached =>
    cases attached <;> simp [Threads.performerStep?, threads, gate, Threads.take?, j]
  | performing attached =>
    cases attached <;>
      simp [Threads.performerStep?, threads, gate, Threads.perform, recordCalls, attempt, outcome,
        Worker.outcome, Worker.attempt, Worker.after]
  | releasing attached =>
    cases attached <;>
      simp [Threads.performerStep?, threads, gate, Gate.release, Threads.withGate]
  | completing attached =>
    -- whether the callback is there decides who calls back
    cases attached <;>
      simp [Threads.performerStep?, threads, gate, Threads.complete, Gate.fill, Threads.withGate,
        Gate.modify_length_append, j, Gate.Callback.to]
  | telling attached =>
    cases attached with
    | false => exact performerStep?_idle rfl rfl
    | true =>
      have hstep : (s.threads (.telling true)).performerStep? s.worker =
          some { (s.threads (.telling true)).tell s.n s.j s.outcome with
            performer := .reporting s.n s.outcome } := rfl
      rw [hstep, tell_threads]
      rfl
  | reporting attached =>
    cases attached with
    | false => exact performerStep?_idle rfl rfl
    | true =>
      have hstep : (s.threads (.reporting true)).performerStep? s.worker =
          some { (s.threads (.reporting true)).report s.n s.outcome with performer := .idle } := rfl
      rw [hstep, report_threads]
      rfl

theorem step?_threads (hw : s.worker.Steady fit) (hfit : fit s.capability.state)
    (hfree : s.capability.gate.Free) (stopOnFailure : Bool) {ph : Phase} (hph : ph ≠ .reported)
    (t : Thread) :
    (s.threads ph).step? s.worker stopOnFailure t = (ph.next t).map s.threads := by
  cases t with
  | client => exact clientStep?_threads hw hfit hfree stopOnFailure hph
  | performer => exact performerStep?_threads ph

/-! ## Beginning and end -/

/-- A command begins when the client dispatches it. -/
theorem clientStep?_ready {w : Worker σ} (hw : w.Steady fit) {p : Pipeline σ}
    {cap : Capability σ Nat} (hfit : fit cap.state) (hfree : cap.gate.Free) (stopOnFailure : Bool)
    (c : Command) (todo : List Command) (results : List Outcome) :
    Threads.clientStep? w stopOnFailure ⟨p, cap, .ready, .idle, c :: todo, results⟩ =
      some (threads ⟨w, p, cap, c, todo, results⟩ .acquiring) := by
  have hgate : gate ⟨w, p, cap, c, todo, results⟩ .acquiring = cap.gate := by
    ext1 <;> simp [gate, hfree.locked, hfree.running]
  simp [Threads.clientStep?, Threads.dispatchNext, Capability.poll_of_steady hw hfit, threads,
    hgate, emit_eq, addDispatch, markHandedOver, Gate.modify_length_append, dispatched, n]

/-- The command is carried out when its outcome is reported. -/
theorem threads_reported (hfree : s.capability.gate.Free) :
    s.threads .reported =
      ⟨s.pipelineAfter, s.capabilityAfter, .waiting s.n, .idle, s.todo, s.results⟩ := by
  have hgate : s.gate .reported = s.capability.gate.served s.command s.n s.outcome := by
    ext1 <;> simp [gate, Gate.served, hfree.locked, hfree.running]
  rw [threads, hgate]
  rfl

theorem clientStep?_reported (hfree : s.capability.gate.Free) (stopOnFailure : Bool) :
    (s.threads .reported).clientStep? s.worker stopOnFailure =
      some (Threads.resume stopOnFailure
        ⟨s.pipelineAfter, s.capabilityAfter, .waiting s.n, .idle, s.todo, s.results⟩
        s.outcome) := by
  rw [threads_reported hfree]
  simp [Threads.clientStep?, pipelineAfter, served, n, outcome]

/-- The client returns nothing before that. -/
theorem answer?_threads (ph : Phase) : (s.threads ph).answer? = none := by
  cases ph with
  | acquiring | submitting | completed | reported => rfl
  | queued attached | performing attached | releasing attached | completing attached
    | telling attached | reporting attached =>
    cases attached <;> rfl

theorem locked_of_acquiring {ph : Phase} {m : Nat} {c : Command}
    (h : (s.threads ph).client = .acquiring m c) :
    (s.threads ph).capability.gate.locked = false := by
  cases ph with
  | acquiring => rfl
  | submitting | completed | reported => cases h
  | queued attached | performing attached | releasing attached | completing attached
    | telling attached | reporting attached =>
    cases attached <;> cases h

end Scene

end GestureScript.Pipeline
