import GestureScript.Capability.DryRun
import GestureScript.Pipeline.Script
import GestureScript.Proofs.Capability.Gate

/-!
# Dispatches to a capability that is free

A worker is steady in a set of states if it is ready in all of them, ends every
performance by itself and stays among them. If such a worker waits behind a gate
that is free, a dispatch is performed and settled before it returns. `course` is
what a worker makes of some commands, whoever hands them over.
-/

set_option autoImplicit false

namespace GestureScript

/-- Nothing is in progress at the gate, and calls are still accepted. -/
structure Gate.Free {κ : Type} (g : Gate κ) : Prop where
  locked : g.locked = false
  stopped : g.stopped = false
  running : g.running = []

/-- The gate after one more call, which was accepted and has been performed. -/
def Gate.served {κ : Type} (g : Gate κ) (c : Command) (target : κ) (o : Outcome) : Gate κ :=
  { g with
    calls := g.calls ++ [⟨.command c, some (.to target), some o, [o]⟩]
    delivered := g.delivered ++ [(target, o)] }

theorem Gate.Free.served {κ : Type} {g : Gate κ} (h : g.Free) (c : Command) (target : κ)
    (o : Outcome) : (g.served c target o).Free := ⟨h.locked, h.stopped, h.running⟩

theorem Gate.Free.submit_finish {κ : Type} {g : Gate κ} (h : g.Free) (c : Command) (target : κ)
    (e : Ending) :
    (g.submit (.command c) true (some (.to target))).1.finish e =
      g.served c target e.outcome := by
  rw [submit_of_free h.locked h.stopped]
  have hrunning : ({ g with locked := true }.start c (some (.to target))).running =
      [g.calls.length] := by simp [start, addCall, h.running]
  rw [finish_cons hrunning]
  simp [resolve, start, addCall, Gate.served, callBack, deliver, Call.resolve, Callback.to,
    modify_length_append, h.locked, h.running]

structure Worker.Steady {σ : Type} (w : Worker σ) (fit : σ → Prop) : Prop where
  ready : ∀ st, fit st → (w.isReady st).1 = true
  polled : ∀ st, fit st → fit (w.isReady st).2
  ends : ∀ c st, fit st → (w.perform (.command c) st).1.held = false
  performed : ∀ c st, fit st → fit (w.perform (.command c) st).2

theorem Pipeline.dryRun_steady : DryRun.worker.Steady fun _ => True where
  ready _ _ := rfl
  polled _ _ := trivial
  ends _ _ _ := rfl
  performed _ _ _ := trivial

namespace Worker

variable {σ : Type}

/-- The state in which a worker begins with a command: it was asked twice whether it is ready. -/
def polledTwice (w : Worker σ) (st : σ) : σ := (w.isReady (w.isReady st).2).2

def attempt (w : Worker σ) (c : Command) (st : σ) : Attempt :=
  (w.perform (.command c) (w.polledTwice st)).1

def after (w : Worker σ) (c : Command) (st : σ) : σ :=
  (w.perform (.command c) (w.polledTwice st)).2

def outcome (w : Worker σ) (c : Command) (st : σ) : Outcome := (w.attempt c st).ending.outcome

/-- The commands that are performed one after the other, with their outcomes. -/
def course (w : Worker σ) (stopOnFailure : Bool) : List Command → σ → List (Command × Outcome)
  | [], _ => []
  | c :: cs, st =>
    (c, w.outcome c st) ::
      if stopOnFailure && (w.outcome c st).isFailure then []
      else course w stopOnFailure cs (w.after c st)

theorem Steady.fit_after {w : Worker σ} {fit : σ → Prop} (h : w.Steady fit) {st : σ}
    (hst : fit st) (c : Command) : fit (w.after c st) :=
  h.performed _ _ (h.polled _ (h.polled _ hst))

end Worker

namespace Capability

variable {σ κ : Type}

/-- The capability after one more command. -/
def served (w : Worker σ) (cap : Capability σ κ) (c : Command) (target : κ) : Capability σ κ :=
  { cap with
    state := w.after c cap.state
    gate := cap.gate.served c target (w.outcome c cap.state) }

theorem poll_of_steady {w : Worker σ} {fit : σ → Prop} (hw : w.Steady fit)
    {cap : Capability σ κ} (hfit : fit cap.state) :
    cap.poll w = (true, { cap with state := (w.isReady cap.state).2 }) := by
  rw [poll, ← hw.ready _ hfit]

/-- The call after a poll. -/
theorem submit_of_steady {w : Worker σ} {fit : σ → Prop} (hw : w.Steady fit)
    {cap : Capability σ κ} (hfit : fit cap.state) (hfree : cap.gate.Free) (c : Command)
    (target : κ) :
    submit w (.command c) (some (.to target)) { cap with state := (w.isReady cap.state).2 } =
      ((w.attempt c cap.state).calls, cap.served w c target) := by
  have hpolled := hw.polled _ hfit
  have hheld := hw.ends c _ (hw.polled _ hpolled)
  have hsubmit := Gate.submit_of_free hfree.locked hfree.stopped c (some (.to target))
  have hfinish := hfree.submit_finish c target (w.attempt c cap.state).ending
  rw [hsubmit] at hfinish
  rw [submit, poll_of_steady hw hpolled]
  simp only [hsubmit]
  simp only [begin, hheld, Bool.false_eq_true, if_false]
  simp only [Worker.attempt, Worker.polledTwice] at hfinish
  simp [served, Worker.attempt, Worker.polledTwice, Worker.after, Worker.outcome, hfinish]

end Capability

/-- The events in which a sink hears a status. -/
def Sink.heard (n : Option Nat) (s : Status) : Sink → List Pipeline.Event
  | .absent => []
  | .listening _ => [.told n s]

namespace Pipeline

variable {σ : Type}

theorem emit_eq (p : Pipeline σ) (n : Option Nat) (s : Status) :
    p.emit n s = { p with trace := p.trace ++ p.sink.heard n s } := by
  cases h : p.sink with
  | absent =>
    rw [emit_absent h, Sink.heard, List.append_nil, ← h]
  | listening fails =>
    rw [emit_listening h, Sink.heard, record, ← h]

theorem settle_eq {p : Pipeline σ} {n : Nat} {d : Dispatch} (h : p.dispatches[n]? = some d)
    (o : Outcome) :
    p.settle n o =
      { p with
        dispatches := p.dispatches.modify n fun d => { d with outcome := some o }
        trace := p.trace ++ p.sink.heard (some n) (.ended d.command o) ++ [.settled n o] } := by
  rw [settle, h]
  simp [emit_eq, keep, record]

/-- The capability is attached, its gate is free and its worker is fit for work. -/
structure Serves (p : Pipeline σ) (i : Nat) (cap : Capability σ Nat) (fit : σ → Prop) : Prop where
  attached : p.attached = some i
  found : p.fleet[i]? = some cap
  free : cap.gate.Free
  fit : fit cap.state

/-- The pipeline after a dispatch that was performed, apart from the capability. -/
def served (p : Pipeline σ) (w : Worker σ) (cap : Capability σ Nat) (c : Command) :
    Pipeline σ :=
  let n := p.dispatches.length
  let o := w.outcome c cap.state
  { p with
    dispatches := p.dispatches ++ [⟨c, true, some o⟩]
    trace := p.trace ++ (p.sink.heard (some n) (.dispatched c) ++
      (w.attempt c cap.state).calls.map .called ++ p.sink.heard (some n) (.ended c o) ++
      [.settled n o]) }

theorem Serves.poll_addDispatch {p : Pipeline σ} {w : Worker σ} {i : Nat}
    {cap : Capability σ Nat} {fit : σ → Prop} (hw : w.Steady fit) (h : p.Serves i cap fit)
    (c : Command) :
    (p.addDispatch c).poll w =
      (some i, (p.addDispatch c).replace i { cap with state := (w.isReady cap.state).2 }) := by
  have hattached : (p.addDispatch c).attached = some i := h.attached
  have hfound : (p.addDispatch c).fleet[i]? = some cap := h.found
  simp [poll, hattached, hfound, Capability.poll_of_steady hw h.fit]

theorem handOver_eq {p : Pipeline σ} {w : Worker σ} {i : Nat} {before after : Capability σ Nat}
    {n : Nat} {c : Command} {calls : List DeviceCall} {o : Outcome} {d : Dispatch}
    (hfound : p.fleet[i]? = some before) (hn : p.dispatches[n]? = some d)
    (hsubmit : before.submit w (.command c) (some (.to n)) = (calls, after))
    (hdelivered : after.gate.delivered = before.gate.delivered ++ [(n, o)]) :
    p.handOver w i n c =
      { p with
        fleet := p.fleet.set i after
        dispatches :=
          p.dispatches.modify n fun d => { d with handedOver := true, outcome := some o }
        trace := p.trace ++ (calls.map .called ++ p.sink.heard (some n) (.ended d.command o) ++
          [.settled n o]) } := by
  have hmarked : (((p.markHandedOver n).recordCalls calls).replace i after).dispatches[n]? =
      some { d with handedOver := true } := by
    simp [markHandedOver, recordCalls, replace, hn]
  rw [Pipeline.handOver, hfound]
  simp only [hsubmit, advance, hdelivered, List.drop_left, List.foldl_cons, List.foldl_nil]
  rw [settle_eq hmarked]
  simp [markHandedOver, recordCalls, replace, List.modify_modify_eq, Function.comp_def]

/-- A dispatch to a capability that is free and fit. -/
theorem Serves.dispatch {p : Pipeline σ} {w : Worker σ} {i : Nat} {cap : Capability σ Nat}
    {fit : σ → Prop} (hw : w.Steady fit) (h : p.Serves i cap fit) (c : Command) :
    p.dispatch w c =
      (p.served w cap c).replace i (cap.served w c p.dispatches.length) := by
  have hlt : i < p.fleet.length := (List.getElem?_eq_some_iff.mp h.found).1
  have hfound : (p.fleet.set i { cap with state := (w.isReady cap.state).2 })[i]? =
      some { cap with state := (w.isReady cap.state).2 } := by simp [hlt]
  have hlast : (p.dispatches ++ [{ command := c }])[p.dispatches.length]? = some { command := c } :=
    List.getElem?_concat_length
  have hsubmit := Capability.submit_of_steady hw h.fit h.free c p.dispatches.length
  rw [Pipeline.dispatch, h.poll_addDispatch hw]
  simp only [emit_eq]
  rw [handOver_eq hfound hlast hsubmit rfl]
  simp [replace, addDispatch, served, Gate.modify_length_append]

/-- The capability serves the pipeline as well after that. -/
theorem Serves.served {p : Pipeline σ} {w : Worker σ} {i : Nat} {cap : Capability σ Nat}
    {fit : σ → Prop} (hw : w.Steady fit) (h : p.Serves i cap fit) (c : Command) :
    ((p.served w cap c).replace i (cap.served w c p.dispatches.length)).Serves i
      (cap.served w c p.dispatches.length) fit where
  attached := h.attached
  found := by
    have hlt : i < p.fleet.length := (List.getElem?_eq_some_iff.mp h.found).1
    simp [replace, Pipeline.served, hlt]
  free := h.free.served _ _ _
  fit := hw.fit_after h.fit c

theorem Serves.carryOut {p : Pipeline σ} {w : Worker σ} {i : Nat} {cap : Capability σ Nat}
    {fit : σ → Prop} (hw : w.Steady fit) (h : p.Serves i cap fit) (c : Command) :
    p.carryOut w c = (.ok (w.outcome c cap.state),
      (p.served w cap c).replace i (cap.served w c p.dispatches.length)) := by
  rw [Pipeline.carryOut, h.dispatch hw]
  simp [lastOutcome?, Pipeline.served, replace]

end Pipeline

end GestureScript
