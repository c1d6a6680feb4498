import GestureScript.Proofs.Capability.Answer

/-!
# Capabilities that are shut down

Unless a capability holds a performance, its lock is free. Whatever is done with it keeps
that, so the lock is free once it was shut down: all calls are answered by then, and from
there on every call is refused without the worker.
-/

set_option autoImplicit false

namespace GestureScript

namespace Gate

variable {κ : Type}

/-- What a gate answers that is stopped and free. -/
def refusal : Submission → Bool → Outcome
  | _, false => .notReady
  | .other typeName, true => .unsupported typeName
  | .command _, true => .shutDown

theorem errorKind?_refusal (c : Command) (ready : Bool) :
    (refusal (.command c) ready).errorKind? = some .capabilityUnavailable := by
  cases ready <;> rfl

theorem refused_refusal {g : Gate κ} (hlock : g.locked = false) (hstop : g.stopped = true)
    (s : Submission) (ready : Bool) : g.Refused s ready (refusal s ready) := by
  cases ready with
  | false => exact .notReady
  | true =>
    cases s with
    | other typeName => exact .unsupported
    | command c => exact .shutDown hlock hstop

/-- While the lock is free, no call waits for its answer. -/
theorem Reachable.answered_of_free {g : Gate κ} (h : g.Reachable) (hlock : g.locked = false) :
    ∀ call ∈ g.calls, call.outcome.isSome := by
  obtain ⟨steps, rfl⟩ := h
  rw [← Watched.gate_run] at hlock ⊢
  have hsound := Watched.sound_run (κ := κ) steps
  intro call hcall
  obtain ⟨i, hi⟩ := List.mem_iff_getElem?.mp hcall
  cases hsound.phase with
  | busy _ _ hbusy => simp [hlock] at hbusy
  | idle _ _ hended =>
    by_cases hperformed : ∃ p ∈ (Watched.run steps).performances, p.call = i
    · obtain ⟨p, hp, rfl⟩ := hperformed
      obtain ⟨call', hcall', ho, _⟩ := hsound.performed p hp
      obtain rfl : call' = call := Option.some.inj (hcall'.symm.trans hi)
      rw [ho, Option.isSome_map]
      exact hended p hp
    · obtain ⟨o, ho, _⟩ := hsound.answered i call hi fun p hp heq => hperformed ⟨p, hp, heq⟩
      exact Option.isSome_of_eq_some ho

end Gate

namespace Capability

variable {σ κ : Type} {cap : Capability σ κ}

structure Orderly (cap : Capability σ κ) : Prop where
  reachable : cap.gate.Reachable
  free : cap.held = none → cap.gate.locked = false

structure Closed (cap : Capability σ κ) : Prop where
  reachable : cap.gate.Reachable
  held : cap.held = none
  locked : cap.gate.locked = false
  stopped : cap.gate.stopped = true

/-- What is done with a capability keeps the property, and so does its worker by itself. -/
structure Lasting (w : Worker σ) (P : Capability σ κ → Prop) : Prop where
  poll : ∀ {cap}, P cap → P (cap.poll w).2
  submit : ∀ {cap}, P cap → ∀ s callback, P (cap.submit w s callback).2
  letGo : ∀ {cap}, P cap → P cap.letGo
  shutDown : ∀ {cap}, P cap → P cap.shutDown
  alter : ∀ {cap}, P cap → ∀ st (ending : Ending),
    P { cap with state := st, held := cap.held.map fun _ => ending }

theorem orderly_new (st : σ) : ({ state := st } : Capability σ κ).Orderly where
  reachable := .refl _
  free _ := rfl

/-! ## While it is in use -/

theorem held_letGo (cap : Capability σ κ) : cap.letGo.held = none := by
  unfold letGo
  split
  next hheld => exact hheld
  · rfl

theorem Orderly.locked_letGo (h : cap.Orderly) : cap.letGo.gate.locked = false := by
  unfold letGo
  split
  next hheld => exact h.free hheld
  next ending _ =>
    -- what was held is all that was running
    rcases h.reachable.running_eq with ⟨hlock, hrunning⟩ | ⟨j, call, hrunning, _, _⟩
    · rwa [Gate.finish_nil hrunning]
    · rw [Gate.finish_cons hrunning, Gate.locked_resolve]

theorem Orderly.letGo (h : cap.Orderly) : cap.letGo.Orderly where
  reachable := h.reachable.trans cap.runsTo_letGo
  free _ := h.locked_letGo

theorem Orderly.stop (h : cap.Orderly) :
    ({ cap with gate := cap.gate.stop } : Capability σ κ).Orderly where
  reachable := h.reachable.step .stop
  free := h.free

theorem Orderly.submit (h : cap.Orderly) (w : Worker σ) (s : Submission)
    (callback : Option (Gate.Callback κ)) : (cap.submit w s callback).2.Orderly where
  reachable := h.reachable.trans (runsTo_submit w s callback cap)
  free := by
    rcases submit_cases w s callback cap with ⟨o, _, hsubmit⟩ | ⟨c, _, _, hlock, _, hsubmit⟩
    · rw [hsubmit]
      exact fun hheld => (Gate.locked_reject _ _ _ _).trans (h.free hheld)
    · rw [hsubmit]
      unfold begin
      dsimp only
      split
      · exact fun hheld => absurd hheld (Option.some_ne_none _)
      · have hrunning : ({ cap.gate with locked := true }.start c callback).running =
            [cap.gate.calls.length] := by
          simp [Gate.start, Gate.addCall, h.reachable.running_of_free hlock]
        -- the performance that ends is the one that took the lock
        intro _
        rw [Gate.finish_cons hrunning, Gate.locked_resolve]

theorem lasting_orderly (w : Worker σ) : Lasting w (Orderly (σ := σ) (κ := κ)) where
  poll h := ⟨h.reachable, h.free⟩
  submit h := h.submit w
  letGo := Orderly.letGo
  shutDown h := h.stop.letGo
  alter h _ _ := ⟨h.reachable, fun hheld => h.free (Option.map_eq_none_iff.mp hheld)⟩

/-! ## When it is shut down -/

theorem stopped_letGo (cap : Capability σ κ) : cap.letGo.gate.stopped = cap.gate.stopped := by
  unfold letGo
  split
  · rfl
  · exact Gate.stopped_finish _ _

theorem Orderly.shutDown (h : cap.Orderly) : cap.shutDown.Closed where
  reachable := h.stop.letGo.reachable
  held := held_letGo _
  locked := h.stop.locked_letGo
  stopped := stopped_letGo _

theorem Closed.answered (h : cap.Closed) : ∀ call ∈ cap.gate.calls, call.outcome.isSome :=
  h.reachable.answered_of_free h.locked

theorem Closed.refuses (h : cap.Closed) (s : Submission) (ready : Bool)
    (callback : Option (Gate.Callback κ)) :
    cap.gate.submit s ready callback =
      (cap.gate.reject s callback (Gate.refusal s ready), none) :=
  Gate.submit_of_refused (Gate.refused_refusal h.locked h.stopped s ready) callback

/-- The worker is asked whether it is ready, and for nothing else. -/
theorem Closed.submit_eq (h : cap.Closed) (w : Worker σ) (s : Submission)
    (callback : Option (Gate.Callback κ)) :
    cap.submit w s callback =
      ([], { cap with
        state := (w.isReady cap.state).2
        gate := cap.gate.reject s callback (Gate.refusal s (w.isReady cap.state).1) }) := by
  have hgate : (cap.poll w).2.gate = cap.gate := rfl
  rw [submit]
  dsimp only
  rw [hgate, h.refuses]
  rfl

theorem Closed.letGo_eq (h : cap.Closed) : cap.letGo = cap := by rw [letGo, h.held]

theorem Closed.shutDown_eq (h : cap.Closed) : cap.shutDown = cap := by
  have hstop : ({ cap with gate := cap.gate.stop } : Capability σ κ) = cap := by
    rw [Gate.stop, ← h.stopped]
  rw [shutDown, hstop, h.letGo_eq]

theorem lasting_closed (w : Worker σ) : Lasting w (Closed (σ := σ) (κ := κ)) where
  poll h := ⟨h.reachable, h.held, h.locked, h.stopped⟩
  submit {cap} h s callback := by
    refine ⟨h.reachable.trans (runsTo_submit w s callback cap), ?_, ?_, ?_⟩
    all_goals rw [h.submit_eq]
    · exact h.held
    · exact (Gate.locked_reject _ _ _ _).trans h.locked
    · exact (Gate.stopped_reject _ _ _ _).trans h.stopped
  letGo h := by rwa [h.letGo_eq]
  shutDown h := by rwa [h.shutDown_eq]
  alter h _ _ := ⟨h.reachable, Option.map_eq_none_iff.mpr h.held, h.locked, h.stopped⟩

end Capability

end GestureScript
