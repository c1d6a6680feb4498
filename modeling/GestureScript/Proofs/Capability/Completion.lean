import GestureScript.Proofs.Capability.Lock

/-!
# Every call is completed once

A call is refused at once or handed to the worker, which performs it once and in its
turn. Either way it gets one outcome, and its callback is called once, with that
outcome. What a callback does with it has no effect on this or on any other call.
-/

set_option autoImplicit false

namespace GestureScript.Gate

variable {κ : Type}

/-! ## Callbacks that fail -/

/-- A callback of the same target that does not fail. -/
def Callback.calm (k : Callback κ) : Callback κ := .to k.target

def Call.calm (call : Call κ) : Call κ := { call with callback := call.callback.map Callback.calm }

def Step.calm : Step κ → Step κ
  | .submit s ready callback => .submit s ready (callback.map Callback.calm)
  | st => st

def calm (g : Gate κ) : Gate κ := { g with calls := g.calls.map Call.calm }

def Watched.calm (w : Watched κ) : Watched κ := ⟨w.gate.calm, w.performances⟩

theorem modify_map_calm (calls : List (Call κ)) (i : Nat) (o : Outcome) :
    (calls.map Call.calm).modify i (Call.resolve o) =
      (calls.modify i (Call.resolve o)).map Call.calm := by
  induction calls generalizing i with
  | nil => simp
  | cons call calls ih =>
    cases i with
    | zero => simp [Call.calm, Call.resolve]
    | succ i => simp [ih]

theorem calm_resolve (g : Gate κ) (i : Nat) (o : Outcome) :
    (g.resolve i o).calm = g.calm.resolve i o := by
  ext1
  · simp [calm]
  · simp [calm]
  · simp [calm]
  · simp only [calm, calls_resolve, modify_map_calm]
  · simp only [calm, delivered_resolve]
    cases hcall : g.calls[i]? with
    | none => simp [hcall]
    | some call =>
      cases hk : call.callback <;> simp [hcall, hk, Call.calm, Callback.calm, Callback.to]

theorem calm_reject (g : Gate κ) (s : Submission) (callback : Option (Callback κ)) (o : Outcome) :
    (g.reject s callback o).calm = g.calm.reject s (callback.map Callback.calm) o := by
  rw [reject, calm_resolve, reject]
  simp [calm, addCall, Call.calm]

theorem calm_finish (g : Gate κ) (e : Ending) : (g.finish e).calm = g.calm.finish e := by
  cases h : g.running with
  | nil => rw [finish_nil h, finish_nil (show g.calm.running = [] from h)]
  | cons i rest =>
    rw [finish_cons h, finish_cons (show g.calm.running = i :: rest from h), calm_resolve]
    rfl

theorem refused_calm {g : Gate κ} {s : Submission} {ready : Bool} {o : Outcome}
    (h : Refused g s ready o) : Refused g.calm s ready o := by
  cases h with
  | notReady => exact .notReady
  | unsupported => exact .unsupported
  | busy hlock => exact .busy hlock
  | shutDown hlock hstop => exact .shutDown hlock hstop

theorem calm_submit (g : Gate κ) (s : Submission) (ready : Bool) (callback : Option (Callback κ)) :
    g.calm.submit s ready (callback.map Callback.calm) =
      ((g.submit s ready callback).1.calm, (g.submit s ready callback).2) := by
  rcases submit_cases g s ready callback with ⟨o, ho, h⟩ | ⟨c, rfl, rfl, hlock, hstop, h⟩
  · rw [h, calm_reject, submit_of_refused (refused_calm ho)]
  · rw [h, submit_of_free (g := g.calm) hlock hstop]
    simp [start, addCall, calm, Call.calm]

namespace Watched

theorem calm_step (w : Watched κ) (st : Step κ) : w.calm.step st.calm = (w.step st).calm := by
  have hlength : w.gate.calm.calls.length = w.gate.calls.length := by simp [Gate.calm]
  cases st with
  | submit s ready callback => simp [step, calm, Step.calm, calm_submit, hlength]
  | finish e => simp [step, calm, Step.calm, calm_finish]
  | stop => rfl
  | stopAndWait e =>
    have hstop : w.gate.calm.stop = w.gate.stop.calm := rfl
    simp [step, calm, Step.calm, calm_finish, hstop]

/-- A run goes the same way whichever callbacks fail. -/
theorem calm_run (steps : List (Step κ)) : run (steps.map Step.calm) = (run steps).calm := by
  suffices h : ∀ w : Watched κ, w.calm.runFrom (steps.map Step.calm) = (w.runFrom steps).calm from
    h {}
  induction steps with
  | nil => exact fun w => rfl
  | cons st steps ih =>
    intro w
    rw [List.map_cons, runFrom_cons, runFrom_cons, calm_step, ih]

end Watched

/-! ## What becomes of a call -/

/-- What a call was made with. -/
def Call.request (call : Call κ) : Submission × Option (Callback κ) :=
  (call.submission, call.callback)

def Step.request? : Step κ → Option (Submission × Option (Callback κ))
  | .submit s _ callback => some (s, callback)
  | _ => none

namespace Watched

/-- How the call with number `i`, which was made at the gate `start`, stands now. -/
inductive Stands (start : Gate κ) (s : Submission) (ready : Bool) (w : Watched κ) (i : Nat)
    (call : Call κ) : Prop
  | refused (o : Outcome) : Refused start s ready o → call.Has (some o) →
      (∀ p ∈ w.performances, p.call ≠ i) → Stands start s ready w i call
  | inProgress (p : Performance) : (¬∃ o, Refused start s ready o) → s = .command p.command →
      w.performances.filter (·.call == i) = [p] → w.unfinished = [p] → call.Has none →
      Stands start s ready w i call
  | finished (p : Performance) (e : Ending) (o : Outcome) : (¬∃ o, Refused start s ready o) →
      s = .command p.command → w.performances.filter (·.call == i) = [p] → p.ending = some e →
      Yields e o → call.Has (some o) → Stands start s ready w i call

theorem requests_modify (calls : List (Call κ)) (i : Nat) (o : Outcome) :
    (calls.modify i (Call.resolve o)).map Call.request = calls.map Call.request := by
  induction calls generalizing i with
  | nil => simp
  | cons call calls ih =>
    cases i with
    | zero => simp [Call.request, Call.resolve]
    | succ i => simp [ih]

theorem requests_finish (g : Gate κ) (e : Ending) :
    (g.finish e).calls.map Call.request = g.calls.map Call.request := by
  cases h : g.running with
  | nil => rw [finish_nil h]
  | cons i rest => rw [finish_cons h, calls_resolve, requests_modify]

theorem requests_step (w : Watched κ) (st : Step κ) :
    (w.step st).gate.calls.map Call.request =
      w.gate.calls.map Call.request ++ st.request?.toList := by
  cases st with
  | submit s ready callback =>
    rcases w.step_submit_cases s ready callback with ⟨o, _, hw⟩ | ⟨c, _, rfl, _, _, hw⟩
    · simp [hw, Step.request?, Call.request, Call.answered, Call.resolve]
    · simp [hw, Step.request?, Call.request, accept, start, addCall]
  | finish e => simp [step, Step.request?, requests_finish]
  | stop => simp [step, Step.request?]
  | stopAndWait e => simp [step, Step.request?, requests_finish]

/-- The calls that were made are on record, in their order, and no others. -/
theorem requests_runFrom (w : Watched κ) (steps : List (Step κ)) :
    (w.runFrom steps).gate.calls.map Call.request =
      w.gate.calls.map Call.request ++ steps.filterMap Step.request? := by
  induction steps generalizing w with
  | nil => simp
  | cons st steps ih =>
    rw [runFrom_cons, ih, requests_step, List.append_assoc]
    cases h : st.request? <;> simp [h]

/-- The performances of a call, if it was the first to get the number `i`. -/
theorem filter_call_eq {ps : List Performance} {before after : List (Nat × Command)} {i : Nat}
    {c : Command} (hps : ps.map (fun p => (p.call, p.command)) = before ++ (i, c) :: after)
    (hbefore : ∀ x ∈ before, x.1 < i) (hafter : ∀ x ∈ after, i < x.1) :
    ∃ p, ps.filter (·.call == i) = [p] ∧ p.command = c := by
  have hnone₁ : before.filter (·.1 == i) = [] :=
    List.filter_eq_nil_iff.mpr fun x hx => by simpa using Nat.ne_of_lt (hbefore x hx)
  have hnone₂ : after.filter (·.1 == i) = [] :=
    List.filter_eq_nil_iff.mpr fun x hx => by simpa using Nat.ne_of_gt (hafter x hx)
  have hfilter : (ps.filter (·.call == i)).map (fun p => (p.call, p.command)) = [(i, c)] := by
    calc (ps.filter (·.call == i)).map (fun p => (p.call, p.command))
        = (ps.map fun p => (p.call, p.command)).filter (·.1 == i) := by
          rw [List.filter_map]
          rfl
      _ = [(i, c)] := by
          rw [hps, List.filter_append, List.filter_cons, hnone₁, hnone₂]
          simp
  obtain ⟨p, hp, hpair⟩ := List.map_eq_singleton_iff.mp hfilter
  exact ⟨p, hp, congrArg Prod.snd hpair⟩

/-- A call that was refused is never performed, and keeps its answer. -/
theorem Sound.stands_of_refused {start : Watched κ} (h : start.Sound) {s : Submission}
    {ready : Bool} {o : Outcome} (ho : Refused start.gate s ready o)
    (callback : Option (Callback κ)) {w : Watched κ}
    (hw : Extends ⟨start.gate.reject s callback o, start.performances⟩ w) :
    ∃ call, w.gate.calls[start.gate.calls.length]? = some call ∧
      Stands start.gate s ready w start.gate.calls.length call := by
  obtain ⟨call, hcall, _, _, hsame⟩ := hw.calls start.gate.calls.length
    (Call.answered s callback o) (by rw [calls_reject, List.getElem?_concat_length])
  obtain rfl := hsame rfl
  refine ⟨_, hcall, .refused o ho (has_answered s callback o) fun p hp heq => ?_⟩
  obtain ⟨more, hps, hmore⟩ := hw.performances
  have hpair : (p.call, p.command) ∈ w.performances.map fun p => (p.call, p.command) :=
    List.mem_map_of_mem hp
  rw [hps] at hpair
  rcases List.mem_append.mp hpair with hold | hnew
  · obtain ⟨q, hq, hqp⟩ := List.mem_map.mp hold
    have hlt := h.call_lt hq
    have hcalls : q.call = p.call := congrArg Prod.fst hqp
    omega
  · have hge : (start.gate.reject s callback o).calls.length ≤ p.call := hmore _ hnew
    rw [calls_reject, List.length_append, List.length_singleton] at hge
    omega

/-- A call that was accepted is performed once, and stands as its performance does. -/
theorem Sound.stands_of_accepted {start : Watched κ} (h : start.Sound) {c : Command}
    (hlock : start.gate.locked = false) (hstop : start.gate.stopped = false)
    (callback : Option (Callback κ)) {w : Watched κ} (hsound : w.Sound)
    (hw : Extends (start.accept c callback) w) :
    ∃ call, w.gate.calls[start.gate.calls.length]? = some call ∧
      Stands start.gate (.command c) true w start.gate.calls.length call := by
  have haccepted := not_refused hlock hstop c
  obtain ⟨more, hps, hmore⟩ := hw.performances
  have hsplit : w.performances.map (fun p => (p.call, p.command)) =
      start.performances.map (fun p => (p.call, p.command)) ++
        (start.gate.calls.length, c) :: more := by
    rw [hps]
    simp [Watched.accept]
  have hold : ∀ x ∈ start.performances.map (fun p => (p.call, p.command)),
      x.1 < start.gate.calls.length := by
    intro x hx
    obtain ⟨q, hq, rfl⟩ := List.mem_map.mp hx
    exact h.call_lt hq
  have hnew : ∀ x ∈ more, start.gate.calls.length < x.1 := by
    intro x hx
    have hge := hmore x hx
    simp only [Watched.accept, Gate.start, addCall, List.length_append,
      List.length_singleton] at hge
    omega
  obtain ⟨p, hp, hcommand⟩ := filter_call_eq hsplit hold hnew
  obtain ⟨hmem, hnumber⟩ : p ∈ w.performances ∧ p.call = start.gate.calls.length := by
    have hfilter : p ∈ w.performances.filter (·.call == start.gate.calls.length) := by simp [hp]
    simpa using hfilter
  obtain ⟨call, hcall, hhas⟩ := hsound.performed p hmem
  rw [hnumber] at hcall
  refine ⟨call, hcall, ?_⟩
  cases hending : p.ending with
  | some e =>
    rw [hending] at hhas
    exact .finished p e _ haccepted (by rw [hcommand]) hp hending (yields_outcome e) hhas
  | none =>
    rw [hending] at hhas
    have hunfinished : p ∈ w.unfinished := by simp [unfinished, hmem, hending]
    rcases hsound.phase.unfinished_eq with ⟨_, hnone⟩ | ⟨q, _, hq⟩
    · simp [hnone] at hunfinished
    · obtain rfl : p = q := by simpa [hq] using hunfinished
      exact .inProgress p haccepted (by rw [hcommand]) hp hq hhas

end Watched

end GestureScript.Gate
