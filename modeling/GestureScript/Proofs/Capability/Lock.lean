import GestureScript.Proofs.Capability.Performance

/-!
# The lock of a gate

Whatever calls are made, however performances end and whoever stops the gate: the
lock is held while one accepted command is performed and at no other time, so no
refusal and no ending leaves it behind and no two commands get through.
-/

set_option autoImplicit false

namespace GestureScript.Gate

variable {κ : Type}

def Step.isStop : Step κ → Bool
  | .stop | .stopAndWait _ => true
  | _ => false

namespace Watched

/-- A performance in progress is the only one, and holds the lock. -/
theorem Phase.unfinished_eq {w : Watched κ} (h : w.Phase) :
    (w.gate.locked = false ∧ w.unfinished = []) ∨
      ∃ p, w.gate.locked = true ∧ w.unfinished = [p] := by
  cases h with
  | idle hlock _ hended =>
    refine .inl ⟨hlock, List.filter_eq_nil_iff.mpr fun p hp => ?_⟩
    simpa [Option.isSome_iff_ne_none] using hended p hp
  | busy before p hlock _ hps hp hbefore =>
    have hnone : before.filter (·.ending.isNone) = [] := by
      refine List.filter_eq_nil_iff.mpr fun q hq => ?_
      simpa [Option.isSome_iff_ne_none] using hbefore q hq
    exact .inr ⟨p, hlock, by simp [unfinished, hps, hnone, hp]⟩

theorem stopped_step (w : Watched κ) (st : Step κ) :
    (w.step st).gate.stopped = (w.gate.stopped || st.isStop) := by
  cases st with
  | submit s ready callback =>
    rcases w.step_submit_cases s ready callback with ⟨o, _, hw⟩ | ⟨c, _, _, _, hstop, hw⟩
    · simp [hw, Step.isStop]
    · simp [hw, Step.isStop, accept, start, addCall]
  | finish e => simp [step, Step.isStop]
  | stop => simp [step, Step.isStop, stop]
  | stopAndWait e => simp [step, Step.isStop, stop]

/-- A gate is stopped once it was told so, with or without waiting, and stays stopped. -/
theorem stopped_runFrom (w : Watched κ) (steps : List (Step κ)) :
    (w.runFrom steps).gate.stopped = (w.gate.stopped || steps.any Step.isStop) := by
  induction steps generalizing w with
  | nil => simp
  | cons st steps ih => rw [runFrom_cons, ih, stopped_step, List.any_cons, Bool.or_assoc]

/-- A call gets through when nothing speaks against it. -/
theorem submit_eq_some_iff (w : Watched κ) (s : Submission) (ready : Bool)
    (callback : Option (Callback κ)) (c : Command) :
    (w.gate.submit s ready callback).2 = some c ↔
      ready = true ∧ s = .command c ∧ w.gate.locked = false ∧ w.gate.stopped = false := by
  constructor
  · intro h
    rcases submit_cases w.gate s ready callback with ⟨o, _, hw⟩ | ⟨d, hready, hs, hlock, hstop, hw⟩
    · simp [hw] at h
    · obtain rfl : d = c := by simpa [hw] using h
      exact ⟨hready, hs, hlock, hstop⟩
  · rintro ⟨rfl, rfl, hlock, hstop⟩
    simp [submit, acquire?, hlock, hstop]

end Watched

end GestureScript.Gate
