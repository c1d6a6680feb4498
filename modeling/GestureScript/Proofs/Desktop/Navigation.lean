import GestureScript.Proofs.Desktop.Pointer
import GestureScript.Proofs.Settings.Hotkey

/-!
# Navigation

A system button is one hotkey, with the keys that the settings have for it. The environment
cannot put a key there that is no key, but it can leave none at all: then the hotkey is empty,
and the command succeeds all the same.
-/

set_option autoImplicit false

namespace GestureScript

/-- A worker that is ready behind a free gate performs a command before the call returns. -/
theorem Capability.submit_of_ready {σ κ : Type} {w : Worker σ} {cap : Capability σ κ}
    (hfree : cap.gate.Free) (hready : (w.isReady cap.state).1 = true) {c : Command}
    {attempt : Attempt} {st : σ}
    (hperform : w.perform (.command c) (w.isReady cap.state).2 = (attempt, st))
    (hheld : attempt.held = false) (callback : Option (Gate.Callback κ)) :
    (cap.submit w (.command c) callback).1 = attempt.calls ∧
      (cap.submit w (.command c) callback).2.state = st ∧
      (cap.submit w (.command c) callback).2.lastOutcome? = some attempt.ending.outcome := by
  rcases submit_cases w (.command c) callback cap with
    ⟨o, hrefused, -⟩ | ⟨c', heq, -, -, -, hsubmit⟩
  · rw [hready] at hrefused
    exact absurd ⟨o, hrefused⟩ (Gate.not_refused hfree.locked hfree.stopped c)
  · obtain rfl := Submission.command.inj heq
    have hmakes := Gate.makes_start_finish (g := { cap.gate with locked := true }) hfree.running
      c callback attempt.ending
    rw [begin] at hsubmit
    simp only [hperform, hheld, Bool.false_eq_true, if_false] at hsubmit
    rw [hsubmit]
    refine ⟨rfl, rfl, ?_⟩
    simp only [lastOutcome?, hmakes.calls, List.getLast?_concat]
    rfl

namespace Desktop

variable {w : Workplace} {d : Desktop}

theorem At.isReady (h : d.At w) : (worker.isReady d).2.At w := by
  have hworkplace : d.workplace = some w := h
  simp [worker, Desktop.isReady, hworkplace, At]

/-- How the call of a hotkey ends. -/
def pressed (w : Workplace) (button : Button) (earlier : List DeviceCall) : Ending :=
  match w.device.fault earlier (.hotkey (w.settings.hotkey button)) with
  | none => .returned (completed w (.press button))
  | some f => .raised (Workplace.reported f)

/-- A system button is one call. -/
theorem perform_press (h : d.At w) (button : Button) :
    worker.perform (.command (.press button)) d =
      (⟨[.hotkey (w.settings.hotkey button)], pressed w button d.log.calls, false⟩,
        { d with log := { d.log with
            calls := d.log.calls ++ [.hotkey (w.settings.hotkey button)] } }) := by
  have hworkplace : d.workplace = some w := h
  simp only [worker, perform, hworkplace, performOn, Workplace.perform, Workplace.run_call,
    List.drop_left, pressed]
  cases w.device.fault d.log.calls (.hotkey (w.settings.hotkey button)) <;> rfl

theorem isSuccess_pressed (button : Button) {earlier : List DeviceCall}
    (h : w.device.fault earlier (.hotkey (w.settings.hotkey button)) = none) :
    (pressed w button earlier).outcome.isSuccess = true := by
  rw [pressed, h]
  rfl

/-- A press that succeeds reports the keys of its hotkey in one text. -/
theorem metadata_pressed {button : Button} {earlier : List DeviceCall} {success : Success}
    (h : (pressed w button earlier).outcome = .success success) : success.metadata =
      some [("hotkey", .text (Workplace.keysText (w.settings.hotkey button)))] := by
  rw [pressed] at h
  cases hfault : w.device.fault earlier (.hotkey (w.settings.hotkey button)) with
  | none =>
    rw [hfault] at h
    obtain rfl := Outcome.success.inj h
    rfl
  | some f =>
    rw [hfault] at h
    cases f <;> cases h

/-! ## Buttons by settings from the environment -/

open Settings Text

variable {κ : Type}

/-- On a desktop that is ready, and where no hotkey fails, a system button is one hotkey and a
success. Settings from the environment have proper keys for it, whatever the variables hold; but
there is none just where the variable of the button holds a text of pluses and blanks. -/
theorem navigation_is_one_hotkey (platform : Platform) (env : Environment) (button : Button)
    (hsettings : w.settings = .ofEnvironment platform env)
    (hcalls : ∀ earlier keys, w.device.fault earlier (.hotkey keys) = none)
    {cap : Capability Desktop κ} (hw : cap.state.At w)
    (hready : (worker.isReady cap.state).1 = true) (hfree : cap.gate.Free)
    (callback : Option (Gate.Callback κ)) :
    let answer := cap.submit worker (.command (.press button)) callback
    ∃ keys, answer.1 = [.hotkey keys] ∧
      answer.2.state.log.calls = cap.state.log.calls ++ [.hotkey keys] ∧
      answer.2.lastOutcome? = some (.success ⟨"Completed: " ++ (Command.press button).display,
        some [("hotkey", .text (Workplace.keysText keys))]⟩) ∧
      (∀ key ∈ keys, IsKey key) ∧
      (keys = [] ↔ ∃ raw, env (Field.hotkey button).variableName = some raw ∧ raw ≠ "" ∧
        ∀ c ∈ raw.toList, c = '+' ∨ isBlank c = true) := by
  intro answer
  obtain ⟨hmade, hstate, houtcome⟩ :=
    Capability.submit_of_ready hfree hready (perform_press hw.isReady button) rfl callback
  refine ⟨(ofEnvironment platform env).hotkey button, ?_, ?_, ?_,
    fun key hkey => isKey_of_mem_hotkey hkey, hotkey_eq_nil_iff platform env button⟩
  · rw [← hsettings]
    exact hmade
  · rw [← hsettings, hstate, isReady_calls]
  · rw [houtcome, pressed, hcalls, ← hsettings]
    rfl

/-- The pieces of the variable that hold no key are left out. -/
theorem two_keys_pressed :
    let env : Environment := fun name =>
      if name = "SCREENPILOT_BACK_HOTKEY" then some "\tctrl ++ z+ " else none
    let w : Workplace :=
      ⟨.simulated [.ok [1920, 1080]] [] true, .ofEnvironment .controlKey env, .controlKey⟩
    let cap : Capability Desktop Nat := { state := { workplace := some w } }
    w.settings = .ofEnvironment .controlKey env ∧
      (∀ earlier keys, w.device.fault earlier (.hotkey keys) = none) ∧ cap.state.At w ∧
      (worker.isReady cap.state).1 = true ∧ cap.gate.Free ∧
      ∃ keys, (cap.submit worker (.command (.press .back)) none).1 = [.hotkey keys] ∧
        keys = ["ctrl", "z"] ∧ ∀ key ∈ keys, IsKey key := by
  intro env w cap
  have hw : cap.state.At w := rfl
  have hready : (worker.isReady cap.state).1 = true := by decide +kernel
  have hfree : cap.gate.Free := ⟨rfl, rfl, rfl⟩
  have hkeys : (cap.submit worker (.command (.press .back)) none).1 =
      [.hotkey ["ctrl", "z"]] := by decide +kernel
  obtain ⟨keys, hmade, -, -, hproper, -⟩ := navigation_is_one_hotkey .controlKey env .back rfl
    (fun _ _ => rfl) hw hready hfree none
  refine ⟨rfl, fun _ _ => rfl, hw, hready, hfree, keys, hmade, ?_, hproper⟩
  rw [hkeys] at hmade
  simpa using hmade.symm

/-- A plus alone makes a hotkey without keys, and the button succeeds by pressing nothing. -/
theorem back_presses_nothing :
    let env : Environment := fun name =>
      if name = "SCREENPILOT_BACK_HOTKEY" then some "+" else none
    let w : Workplace :=
      ⟨.simulated [.ok [1920, 1080]] [] true, .ofEnvironment .controlKey env, .controlKey⟩
    let answer := Capability.submit worker (.command (.press .back)) none
      ({ state := { workplace := some w } } : Capability Desktop Nat)
    answer.1 = [.hotkey []] ∧ answer.2.lastOutcome?.map Outcome.isSuccess = some true ∧
      ¬∀ (platform : Platform) (env : Environment) (button : Button) (w : Workplace)
        (cap : Capability Desktop Nat), w.settings = .ofEnvironment platform env →
        (∀ earlier c, w.device.fault earlier c = none) → cap.state.At w →
        (worker.isReady cap.state).1 = true → cap.gate.Free →
        ∃ keys, (cap.submit worker (.command (.press button)) none).1 = [.hotkey keys] ∧
          keys ≠ [] ∧ ∀ key ∈ keys, IsKey key := by
  intro env w answer
  have hcalls : answer.1 = [.hotkey []] := by decide +kernel
  refine ⟨hcalls, by decide +kernel, ?_⟩
  intro h
  obtain ⟨keys, hmade, hne, -⟩ := h .controlKey env .back w { state := { workplace := some w } } rfl
    (fun _ _ => rfl) rfl (by decide +kernel) ⟨rfl, rfl, rfl⟩
  obtain rfl : keys = [] := by simpa using hcalls.symm.trans hmade
  exact hne rfl

end Desktop

end GestureScript
