import GestureScript.Monitor.Input
import GestureScript.Proofs.Monitor.Quiet

/-!
# The state of a monitor after any inputs

Whatever reaches a monitor and whoever listens to it, its state is a function of what it
saw since it was last reset. Values that are neither snapshots nor names leave no trace.
-/

set_option autoImplicit false

namespace GestureScript.Audience

def Operation.isObservation : Operation → Bool
  | .foreground .. | .snapshot .. => true
  | _ => false

namespace Input

def isObservation (i : Input) : Bool := i.toOperation.isObservation

def sighting? (i : Input) : Option Sighting := i.toOperation.sighting?

def isQuiet (i : Input) : Bool := i.toOperation.isQuiet

end Input

theorem apply_of_invalid (a : Audience) {op : Operation} (hobservation : op.isObservation = true)
    (hinvalid : op.sighting? = none) : a.apply op = a := by
  cases op with
  | foreground now package =>
    rcases foreground_cases now package with ⟨-, hignored⟩ | ⟨_, _, _, -, -, hsome⟩
    · show seeForegroundWith _ now package a = a
      simp [seeForegroundWith, hignored]
    · rw [hsome] at hinvalid
      cases hinvalid
  | snapshot now s =>
    cases s with
    | none => rfl
    | some s => cases hinvalid
  | subscribe | unsubscribe | reset => cases hobservation

theorem filterMap_toOperation (inputs : List Input) :
    (inputs.map Input.toOperation).filterMap Operation.sighting? =
      inputs.filterMap Input.sighting? := List.filterMap_map ..

/-- What a new monitor saw of some inputs; quiet listeners add nothing to it. -/
theorem exists_log_attend (m : Monitor) (inputs : List Input) :
    ∃ log, (attend { monitor := m } inputs).monitor = m.replay log ∧
      (inputs.filterMap Input.sighting?).Sublist log ∧
      ((∀ i ∈ inputs, i.isQuiet = true) → log = inputs.filterMap Input.sighting?) := by
  have hrun := attend_eq_run { monitor := m } inputs
  by_cases hquiet : ∀ i ∈ inputs, i.isQuiet = true
  · have hops : ∀ op ∈ inputs.map Input.toOperation, op.isQuiet = true := by
      intro op hop
      obtain ⟨i, hi, rfl⟩ := List.mem_map.mp hop
      exact hquiet i hi
    obtain ⟨_, hsees⟩ := (quiet_new m).run hops
    rw [filterMap_toOperation, ← hrun] at hsees
    exact ⟨_, hsees, .refl _, fun _ => rfl⟩
  · obtain ⟨log, hsees, hsublist⟩ := exists_sees_run { monitor := m } (inputs.map Input.toOperation)
    rw [filterMap_toOperation] at hsublist
    rw [← hrun] at hsees
    exact ⟨log, hsees, hsublist, fun h => absurd h hquiet⟩

/-- The name that an input gives as a string. -/
def Input.string? : Input → Option String
  | .value _ (.data (.text s)) => if s.isEmpty then none else some s
  | _ => none

end GestureScript.Audience
