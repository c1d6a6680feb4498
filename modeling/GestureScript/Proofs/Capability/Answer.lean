import GestureScript.Capability.Worker
import GestureScript.Proofs.Capability.Completion

/-!
# What the operations of a capability answer

A capability answers a call when it is made, or begins with it and answers it later.
Nothing else happens to the calls at its gate, and a callback hears of an answer when it
is given. `Makes` and `Ends` say so of a gate that some run leads to.
-/

set_option autoImplicit false

namespace GestureScript

namespace Gate

variable {κ : Type}

/-- Some steps lead from one gate to the other. -/
def RunsTo (g g' : Gate κ) : Prop := ∃ steps, g' = g.run steps

/-- Some run leads to the gate. -/
def Reachable (g : Gate κ) : Prop := RunsTo {} g

/-- One more call was made. If it is answered by now, its callback heard of that. -/
structure Makes (g g' : Gate κ) (call : Call κ) : Prop where
  calls : g'.calls = g.calls ++ [call]
  delivered : g'.delivered = g.delivered ++ call.report?.toList

/-- No call was made, and at most one that waited for its answer was answered. -/
inductive Ends (g g' : Gate κ) : Prop
  | none : g'.calls = g.calls → g'.delivered = g.delivered → Ends g g'
  | one (j : Nat) (call : Call κ) (o : Outcome) : g.calls[j]? = some call → call.outcome = none →
      g'.calls = g.calls.modify j (Call.resolve o) →
      g'.delivered = g.delivered ++ (call.resolve o).report?.toList → Ends g g'

theorem RunsTo.refl (g : Gate κ) : g.RunsTo g := ⟨[], rfl⟩

theorem RunsTo.trans {first second third : Gate κ} (h₁ : first.RunsTo second)
    (h₂ : second.RunsTo third) : first.RunsTo third := by
  obtain ⟨steps, rfl⟩ := h₁
  obtain ⟨more, rfl⟩ := h₂
  exact ⟨steps ++ more, (run_append first steps more).symm⟩

theorem runsTo_step (g : Gate κ) (st : Step κ) : g.RunsTo (g.step st) := ⟨[st], rfl⟩

theorem Reachable.step {g : Gate κ} (h : g.Reachable) (st : Step κ) : (g.step st).Reachable :=
  h.trans (runsTo_step g st)

/-- The calls that were made stay on record, with those that are made later behind them. -/
theorem RunsTo.requests {g g' : Gate κ} (h : g.RunsTo g') :
    g.calls.map Call.request <+: g'.calls.map Call.request := by
  obtain ⟨steps, rfl⟩ := h
  induction steps generalizing g with
  | nil => exact List.prefix_refl _
  | cons st steps ih =>
    have hstep : (g.step st).calls.map Call.request =
        g.calls.map Call.request ++ st.request?.toList := by
      rw [← Watched.requests_step ⟨g, []⟩ st, Watched.gate_step]
    exact (List.prefix_append _ _).trans (hstep ▸ ih)

/-- What is in progress is one call that has no answer yet, and the lock tells. -/
theorem Reachable.running_eq {g : Gate κ} (h : g.Reachable) :
    (g.locked = false ∧ g.running = []) ∨
      ∃ j call, g.running = [j] ∧ g.calls[j]? = some call ∧ call.outcome = none := by
  obtain ⟨steps, rfl⟩ := h
  have hsound := Watched.sound_run (κ := κ) steps
  rw [← Watched.gate_run]
  cases hsound.phase with
  | idle hlock hrunning _ => exact .inl ⟨hlock, hrunning⟩
  | busy before p _ hrunning hps hp _ =>
    obtain ⟨call, hcall, hhas⟩ := hsound.performed p (by simp [hps])
    refine .inr ⟨p.call, call, hrunning, hcall, ?_⟩
    rw [hhas.1, hp, Option.map_none]

theorem Reachable.running_of_free {g : Gate κ} (h : g.Reachable) (hlock : g.locked = false) :
    g.running = [] := by
  obtain ⟨steps, rfl⟩ := h
  rw [← Watched.gate_run] at hlock ⊢
  cases (Watched.sound_run (κ := κ) steps).phase with
  | idle _ hrunning _ => exact hrunning
  | busy _ _ hbusy => simp [hlock] at hbusy

theorem makes_reject (g : Gate κ) (s : Submission) (callback : Option (Callback κ)) (o : Outcome) :
    g.Makes (g.reject s callback o) (Call.answered s callback o) where
  calls := calls_reject g s callback o
  delivered := by rw [delivered_reject, Watched.report?_answered]

theorem makes_start (g : Gate κ) (c : Command) (callback : Option (Callback κ)) :
    g.Makes (g.start c callback) { submission := .command c, callback := callback } where
  calls := rfl
  delivered := by cases callback <;> simp [start, addCall, Call.report?]

/-- A command that is performed at once is a call that is answered at once. -/
theorem makes_start_finish {g : Gate κ} (hrunning : g.running = []) (c : Command)
    (callback : Option (Callback κ)) (e : Ending) :
    g.Makes ((g.start c callback).finish e) (Call.answered (.command c) callback e.outcome) := by
  have hstart : (g.start c callback).running = [g.calls.length] := by
    simp [start, addCall, hrunning]
  rw [finish_cons hstart]
  constructor
  · simp [start, addCall, Call.answered, modify_length_append]
  · rw [delivered_resolve, Watched.report?_answered]
    simp [start, addCall]

theorem ends_finish {g : Gate κ} (h : g.Reachable) (e : Ending) : g.Ends (g.finish e) := by
  rcases h.running_eq with ⟨_, hrunning⟩ | ⟨j, call, hrunning, hcall, hnone⟩
  · rw [finish_nil hrunning]
    exact .none rfl rfl
  · rw [finish_cons hrunning]
    refine .one j call e.outcome hcall hnone (calls_resolve _ _ _) ?_
    rw [delivered_resolve, hcall]
    cases hk : call.callback <;> simp [Call.report?, Call.resolve, hk]

end Gate

namespace Capability

open Gate (Call Callback)

variable {σ κ : Type} {cap : Capability σ κ}

/-- A call is refused, or the worker begins with it under the lock. The worker is asked first. -/
theorem submit_cases (w : Worker σ) (s : Submission) (callback : Option (Callback κ))
    (cap : Capability σ κ) :
    (∃ o, Gate.Refused cap.gate s (w.isReady cap.state).1 o ∧ submit w s callback cap =
      ([], { cap with state := (w.isReady cap.state).2, gate := cap.gate.reject s callback o })) ∨
    ∃ c, s = .command c ∧ (w.isReady cap.state).1 = true ∧ cap.gate.locked = false ∧
      cap.gate.stopped = false ∧ submit w s callback cap =
        begin w c { cap with
          state := (w.isReady cap.state).2
          gate := { cap.gate with locked := true }.start c callback } := by
  have hgate : (cap.poll w).2.gate = cap.gate := rfl
  rw [submit]
  dsimp only
  rw [hgate]
  rcases cap.gate.submit_cases s (cap.poll w).1 callback with
    ⟨o, hrefused, hsubmit⟩ | ⟨c, hready, rfl, hlock, hstop, hsubmit⟩
  · rw [hsubmit]
    exact .inl ⟨o, hrefused, rfl⟩
  · rw [hsubmit]
    exact .inr ⟨c, rfl, hready, hlock, hstop, rfl⟩

theorem runsTo_submit (w : Worker σ) (s : Submission) (callback : Option (Callback κ))
    (cap : Capability σ κ) : cap.gate.RunsTo (submit w s callback cap).2.gate := by
  have hcall := cap.gate.runsTo_step (.submit s (cap.poll w).1 callback)
  rw [Gate.step] at hcall
  unfold submit
  dsimp only
  split
  next gate hgate =>
    rw [show (cap.poll w).2.gate = cap.gate from rfl] at hgate
    rwa [hgate] at hcall
  next gate c hgate =>
    rw [show (cap.poll w).2.gate = cap.gate from rfl] at hgate
    rw [hgate] at hcall
    unfold begin
    dsimp only
    split
    · exact hcall
    · exact hcall.trans (gate.runsTo_step (.finish _))

/-- A call of a capability is one call at its gate. -/
theorem makes_submit (w : Worker σ) (h : cap.gate.Reachable) (s : Submission)
    (callback : Option (Callback κ)) :
    ∃ call, call.request = (s, callback) ∧
      cap.gate.Makes (submit w s callback cap).2.gate call := by
  have hgate : (cap.poll w).2.gate = cap.gate := rfl
  rw [submit]
  dsimp only
  rw [hgate]
  rcases cap.gate.submit_cases s (cap.poll w).1 callback with
    ⟨o, _, hsubmit⟩ | ⟨c, _, rfl, hlock, _, hsubmit⟩
  · rw [hsubmit]
    exact ⟨_, rfl, Gate.makes_reject _ s callback o⟩
  · have hrunning := h.running_of_free hlock
    rw [hsubmit]
    dsimp only
    unfold begin
    dsimp only
    split
    · obtain ⟨hcalls, hdelivered⟩ := Gate.makes_start { cap.gate with locked := true } c callback
      exact ⟨_, rfl, hcalls, hdelivered⟩
    · obtain ⟨hcalls, hdelivered⟩ := Gate.makes_start_finish
        (g := { cap.gate with locked := true }) hrunning c callback _
      exact ⟨_, rfl, hcalls, hdelivered⟩

theorem runsTo_letGo (cap : Capability σ κ) : cap.gate.RunsTo cap.letGo.gate := by
  unfold letGo
  split
  · exact .refl cap.gate
  next ending _ => exact cap.gate.runsTo_step (.finish ending)

theorem ends_letGo (h : cap.gate.Reachable) : cap.gate.Ends cap.letGo.gate := by
  unfold letGo
  split
  · exact .none rfl rfl
  next ending _ => exact Gate.ends_finish h ending

theorem runsTo_shutDown (cap : Capability σ κ) : cap.gate.RunsTo cap.shutDown.gate :=
  (cap.gate.runsTo_step .stop).trans (runsTo_letGo { cap with gate := cap.gate.stop })

theorem ends_shutDown (h : cap.gate.Reachable) : cap.gate.Ends cap.shutDown.gate := by
  have hreachable : ({ cap with gate := cap.gate.stop } : Capability σ κ).gate.Reachable :=
    h.step .stop
  have hstopped : cap.gate.stop.Ends cap.shutDown.gate := ends_letGo hreachable
  cases hstopped with
  | none hcalls hdelivered => exact .none hcalls hdelivered
  | one j call o hcall hnone hcalls hdelivered => exact .one j call o hcall hnone hcalls hdelivered

end Capability

end GestureScript
