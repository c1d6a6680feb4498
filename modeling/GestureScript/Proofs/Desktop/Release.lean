import GestureScript.Proofs.Desktop.Faults

/-!
# Releases of the button

A tap presses the button at each point, rests, and lets go of it. Only a rest that fails comes
between a press and its release: then the button stays down. The induction is on the points,
and goes along the steps of one press after the other.
-/

set_option autoImplicit false

namespace GestureScript

namespace Workplace

/-- What holds of each of some calls, of those made before it and of those that come after it. -/
def EachCall (P : List DeviceCall → DeviceCall → List DeviceCall → Prop)
    (earlier calls : List DeviceCall) : Prop :=
  ∀ between c later, calls = between ++ c :: later → P (earlier ++ between) c later

/-- Whenever the button went down, the machine is asked later to let go of it. -/
def Releases (w : Workplace) : (earlier calls : List DeviceCall) → Prop :=
  EachCall fun earlier c later =>
    c = .mouseDown → w.device.fault earlier c = none → .mouseUp ∈ later

/-- No rest fails. -/
def Rests (w : Workplace) : (earlier calls : List DeviceCall) → Prop :=
  EachCall fun earlier c _ => c.action = .sleep → w.device.fault earlier c = none

/-- The calls of a tap at one point. -/
def pressAt (hold : Binary64) (p : Point) : List DeviceCall :=
  [.moveTo p.x p.y, .mouseDown, .sleep hold, .mouseUp]

/-! ## One call after the other -/

section

variable {P : List DeviceCall → DeviceCall → List DeviceCall → Prop}
  {earlier calls : List DeviceCall}

theorem eachCall_nil : EachCall P earlier [] := by
  intro between c later heq
  simp at heq

theorem eachCall_cons {c : DeviceCall} :
    EachCall P earlier (c :: calls) ↔ P earlier c calls ∧ EachCall P (earlier ++ [c]) calls := by
  constructor
  · intro h
    refine ⟨?_, fun between d later heq => ?_⟩
    · simpa using h [] c calls rfl
    · simpa using h (c :: between) d later (by rw [heq, List.cons_append])
  · rintro ⟨hfirst, hrest⟩ between d later heq
    cases between with
    | nil =>
      obtain ⟨rfl, rfl⟩ := List.cons.inj heq
      simpa using hfirst
    | cons b between =>
      obtain ⟨rfl, rfl⟩ := List.cons.inj heq
      simpa using hrest between d later rfl

end

variable {w : Workplace} {earlier : List DeviceCall}

/-- What is made of some calls in a row: those up to the first that fails, and that one. -/
def attempted (w : Workplace) : (earlier calls : List DeviceCall) → List DeviceCall
  | _, [] => []
  | earlier, c :: calls =>
    c :: if w.device.fault earlier c = none then attempted w (earlier ++ [c]) calls else []

theorem calls_walk (calls : List DeviceCall) (log : DeviceLog) :
    (walk w (calls.map Step.call) log).2.calls = log.calls ++ attempted w log.calls calls := by
  induction calls generalizing log with
  | nil => simp [walk, attempted]
  | cons c calls ih =>
    rw [List.map_cons, walk, Step.fault?, attempted]
    cases hfault : w.device.fault log.calls c with
    | some f => simp [Step.record]
    | none =>
      rw [if_pos rfl]
      simp only [ih, Step.record, List.append_assoc, List.singleton_append]

/-! ## Presses -/

/-- A press whose calls all succeed leaves nothing to be released. -/
theorem releases_pressAt_append {hold : Binary64} {p : Point} {calls : List DeviceCall} :
    w.Releases earlier (pressAt hold p ++ calls) ↔
      w.Releases (earlier ++ pressAt hold p) calls := by
  simp [pressAt, Releases, eachCall_cons]

theorem rests_pressAt_append {hold : Binary64} {p : Point} {calls : List DeviceCall}
    (hrest : w.device.fault (earlier ++ [.moveTo p.x p.y, .mouseDown]) (.sleep hold) = none) :
    w.Rests earlier (pressAt hold p ++ calls) ↔ w.Rests (earlier ++ pressAt hold p) calls := by
  simp [pressAt, Rests, eachCall_cons, hrest, DeviceCall.action]

/-- A press that fails is the last. Of its four calls only a failing rest leaves the button
down. -/
theorem releases_iff_rests_pressAt {hold : Binary64} {p : Point} (calls : List DeviceCall)
    (hcalls : w.Releases (earlier ++ pressAt hold p)
        (attempted w (earlier ++ pressAt hold p) calls) ↔
      w.Rests (earlier ++ pressAt hold p) (attempted w (earlier ++ pressAt hold p) calls)) :
    w.Releases earlier (attempted w earlier (pressAt hold p ++ calls)) ↔
      w.Rests earlier (attempted w earlier (pressAt hold p ++ calls)) := by
  by_cases hmove : w.device.fault earlier (.moveTo p.x p.y) = none
  swap
  · have hpress : attempted w earlier (pressAt hold p ++ calls) = [.moveTo p.x p.y] := by
      simp [pressAt, attempted, hmove]
    rw [hpress]
    refine iff_of_true ?_ ?_
    · simp [Releases, eachCall_cons, eachCall_nil]
    · simp [Rests, eachCall_cons, eachCall_nil, DeviceCall.action]
  by_cases hdown : w.device.fault (earlier ++ [.moveTo p.x p.y]) .mouseDown = none
  swap
  · have hpress : attempted w earlier (pressAt hold p ++ calls) =
        [.moveTo p.x p.y, .mouseDown] := by
      simp [pressAt, attempted, hmove, hdown]
    rw [hpress]
    refine iff_of_true ?_ ?_
    · simp [Releases, eachCall_cons, eachCall_nil, hdown]
    · simp [Rests, eachCall_cons, eachCall_nil, DeviceCall.action]
  by_cases hrest : w.device.fault (earlier ++ [.moveTo p.x p.y, .mouseDown]) (.sleep hold) = none
  swap
  · -- The button is down, and nothing is asked of the machine any more.
    have hpress : attempted w earlier (pressAt hold p ++ calls) =
        [.moveTo p.x p.y, .mouseDown, .sleep hold] := by
      simp [pressAt, attempted, hmove, hdown, hrest]
    rw [hpress]
    refine iff_of_false ?_ ?_
    · simp [Releases, eachCall_cons, hdown]
    · simp [Rests, eachCall_cons, hrest, DeviceCall.action]
  by_cases hup : w.device.fault (earlier ++ [.moveTo p.x p.y, .mouseDown, .sleep hold])
    .mouseUp = none
  swap
  · have hpress : attempted w earlier (pressAt hold p ++ calls) = pressAt hold p ++ [] := by
      simp [pressAt, attempted, hmove, hdown, hrest, hup]
    rw [hpress, releases_pressAt_append, rests_pressAt_append hrest]
    exact iff_of_true eachCall_nil eachCall_nil
  have hpress : attempted w earlier (pressAt hold p ++ calls) =
      pressAt hold p ++ attempted w (earlier ++ pressAt hold p) calls := by
    simp [pressAt, attempted, hmove, hdown, hrest, hup]
  rw [hpress, releases_pressAt_append, rests_pressAt_append hrest]
  exact hcalls

theorem releases_iff_rests (hold : Binary64) (points : List Point) (earlier : List DeviceCall) :
    w.Releases earlier (attempted w earlier (points.flatMap (pressAt hold))) ↔
      w.Rests earlier (attempted w earlier (points.flatMap (pressAt hold))) := by
  induction points generalizing earlier with
  | nil => exact iff_of_true eachCall_nil eachCall_nil
  | cons p points ih =>
    rw [List.flatMap_cons]
    exact releases_iff_rests_pressAt _ (ih _)

/-- The calls of a tap are presses at its points, unless it fails before the first of them. -/
theorem calls_tap (points : List Point) (duration : Int) (log : DeviceLog) :
    (walk w (w.steps (.tap points duration)) log).2.calls = log.calls ∨
      (walk w (w.steps (.tap points duration)) log).2.calls =
        log.calls ++ attempted w log.calls (points.flatMap (pressAt (lasting duration))) := by
  have hpresses : ∀ p : Point, [Step.call (.moveTo p.x p.y), .call .mouseDown,
      .call (.sleep (lasting duration)), .call .mouseUp] =
        (pressAt (lasting duration) p).map Step.call := fun p => rfl
  rw [steps, walk]
  cases (Step.measure points).fault? w log with
  | some f => exact .inl rfl
  | none =>
    dsimp only
    rw [walk]
    cases (Step.convert duration).fault? w ((Step.measure points).record log) with
    | some f => exact .inl rfl
    | none =>
      refine .inr ?_
      simp only [hpresses, ← List.map_flatMap]
      exact calls_walk _ _

end Workplace

namespace Desktop

open Workplace

/-- However a tap goes, and whatever fails on the machine: each press that took effect is
followed by a release just when no rest between the two fails. -/
theorem button_let_go_iff_rests (w : Workplace) (points : List Point) (duration : Int)
    (log : DeviceLog) :
    let performance := worker.perform (.command (.tap points duration)) ⟨some w, log⟩
    w.Releases log.calls performance.1.calls ↔ w.Rests log.calls performance.1.calls := by
  intro performance
  have hrun : (w.perform (.tap points duration)).run.run log =
      walk w (w.steps (.tap points duration)) log := follows_perform _ log
  have hcalls : performance.1.calls =
      (walk w (w.steps (.tap points duration)) log).2.calls.drop log.calls.length := by
    rw [← hrun]
    rfl
  rcases calls_tap points duration log with hnone | hpresses
  · rw [hcalls, hnone, List.drop_length]
    exact iff_of_true eachCall_nil eachCall_nil
  · rw [hcalls, hpresses, List.drop_left]
    exact releases_iff_rests _ points log.calls

/-- On a machine where nothing fails but what its clock cannot count, a tap at one point that
is to last some million years leaves the button down. -/
theorem button_held_after_endless_tap :
    ¬ ∀ (w : Workplace) (points : List Point) (duration : Int) (log : DeviceLog),
      w.Releases log.calls
        (worker.perform (.command (.tap points duration)) ⟨some w, log⟩).1.calls := by
  intro h
  let device := (Device.simulated [.ok [1920, 1080]] [] true).withSystemClock
  let w : Workplace := ⟨device, .default, .controlKey⟩
  have hcalls : (worker.perform (.command (.tap [⟨5, 7⟩] 99999999999999999)) ⟨some w, {}⟩).1.calls =
      [.moveTo 5 7, .mouseDown, .sleep (lasting 99999999999999999)] := by decide +kernel
  have hreleases := h w [⟨5, 7⟩] 99999999999999999 {}
  rw [hcalls] at hreleases
  have hup := hreleases [.moveTo 5 7] .mouseDown _ rfl rfl rfl
  simp at hup

end Desktop

end GestureScript
