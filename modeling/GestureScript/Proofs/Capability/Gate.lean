import GestureScript.Capability.Gate

/-!
# What the operations of a gate do

One equation for each operation. `Refused` lists the reasons for which a call is
refused, each where none of those before it applies; `Yields` gives the outcome
of a performance that ended.
-/

set_option autoImplicit false

namespace GestureScript.Gate

attribute [ext] Gate

variable {κ : Type}

/-- A call that a gate refuses, and its answer. -/
inductive Refused (g : Gate κ) : Submission → Bool → Outcome → Prop
  | notReady {s} : Refused g s false .notReady
  | unsupported {typeName} : Refused g (.other typeName) true (.unsupported typeName)
  | busy {c} : g.locked = true → Refused g (.command c) true .busy
  | shutDown {c} : g.locked = false → g.stopped = true → Refused g (.command c) true .shutDown

/-- What becomes of an ending: a result is kept, a refusal keeps its kind, reason
and cause, and anything else is a failure of unknown kind that carries the fault. -/
inductive Yields : Ending → Outcome → Prop
  | returned {o} : Yields (.returned o) o
  | refused {kind reason} : Yields (.raised (.refused kind reason)) (.failure ⟨reason, none, kind⟩)
  | refusedBecause {kind reason cause} :
      Yields (.raised (.refusedBecause kind reason cause)) (.failure ⟨reason, some cause, kind⟩)
  | unexpected {f} : (∀ kind reason, f ≠ .refused kind reason) →
      (∀ kind reason cause, f ≠ .refusedBecause kind reason cause) →
      Yields (.raised f) (.failure ⟨"Command execution failed", some f, .unknown⟩)
  | notAResult {typeName} : Yields (.returnedOther typeName)
      (.failure ⟨"Command execution failed", some (.notAResult typeName), .unknown⟩)

theorem Refused.exists_failure {g : Gate κ} {s : Submission} {ready : Bool} {o : Outcome}
    (h : Refused g s ready o) : ∃ f, o = .failure f := by
  cases h <;> exact ⟨_, rfl⟩

theorem yields_outcome (e : Ending) : Yields e e.outcome := by
  cases e with
  | returned o => exact .returned
  | returnedOther typeName => exact .notAResult
  | raised f =>
    cases f with
    | refused kind reason => exact .refused
    | refusedBecause kind reason cause => exact .refusedBecause
    | _ => exact .unexpected (by simp) (by simp)

/-! ## Resolving -/

@[simp] theorem locked_resolve (g : Gate κ) (i : Nat) (o : Outcome) :
    (g.resolve i o).locked = g.locked := by
  unfold resolve
  split <;> rfl

@[simp] theorem stopped_resolve (g : Gate κ) (i : Nat) (o : Outcome) :
    (g.resolve i o).stopped = g.stopped := by
  unfold resolve
  split <;> rfl

@[simp] theorem running_resolve (g : Gate κ) (i : Nat) (o : Outcome) :
    (g.resolve i o).running = g.running := by
  unfold resolve
  split <;> rfl

theorem modify_length_append {α : Type} (f : α → α) (a : α) (as : List α) :
    (as ++ [a]).modify as.length f = as ++ [f a] := by
  induction as with
  | nil => rfl
  | cons b as ih => simp [ih]

/-- The call that is answered with an outcome as soon as it is made. -/
def Call.answered (s : Submission) (callback : Option (Callback κ)) (o : Outcome) : Call κ :=
  Call.resolve o { submission := s, callback := callback }

section

variable (g : Gate κ) (s : Submission) (callback : Option (Callback κ)) (o : Outcome)

@[simp] theorem locked_reject : (g.reject s callback o).locked = g.locked := by
  simp [reject, addCall]

@[simp] theorem stopped_reject : (g.reject s callback o).stopped = g.stopped := by
  simp [reject, addCall]

@[simp] theorem running_reject : (g.reject s callback o).running = g.running := by
  simp [reject, addCall]

@[simp] theorem calls_reject :
    (g.reject s callback o).calls = g.calls ++ [Call.answered s callback o] := by
  simp [reject, addCall, Call.answered, modify_length_append]

theorem delivered_reject : (g.reject s callback o).delivered =
    g.delivered ++ (callback.map fun k => (k.target, o)).toList := by
  rw [reject, delivered_resolve]
  simp [addCall]

end

/-! ## Calls and endings -/

theorem submit_of_refused {g : Gate κ} {s : Submission} {ready : Bool} {o : Outcome}
    (h : Refused g s ready o) (callback : Option (Callback κ)) :
    g.submit s ready callback = (g.reject s callback o, none) := by
  cases h with
  | notReady => rfl
  | unsupported => rfl
  | busy hlock => simp [submit, acquire?, hlock]
  | shutDown hlock hstop =>
    -- the lock is taken and given back
    have hback : { g with locked := true }.release = g := by rw [release, ← hlock]
    rw [submit, acquire?, hlock, ← hback]
    simp [release, hstop]

theorem not_refused {g : Gate κ} (hlock : g.locked = false) (hstop : g.stopped = false)
    (c : Command) : ¬∃ o, Refused g (.command c) true o := by
  rintro ⟨o, ho⟩
  cases ho with
  | busy hlock' => simp [hlock] at hlock'
  | shutDown _ hstop' => simp [hstop] at hstop'

theorem submit_of_free {g : Gate κ} (hlock : g.locked = false) (hstop : g.stopped = false)
    (c : Command) (callback : Option (Callback κ)) :
    g.submit (.command c) true callback =
      ({ g with locked := true }.start c callback, some c) := by
  simp [submit, acquire?, hlock, hstop]

/-- A call is either refused, or handed to the worker under the lock. -/
theorem submit_cases (g : Gate κ) (s : Submission) (ready : Bool)
    (callback : Option (Callback κ)) :
    (∃ o, Refused g s ready o ∧ g.submit s ready callback = (g.reject s callback o, none)) ∨
      ∃ c, ready = true ∧ s = .command c ∧ g.locked = false ∧ g.stopped = false ∧
        g.submit s ready callback = ({ g with locked := true }.start c callback, some c) := by
  cases ready with
  | false => exact .inl ⟨_, .notReady, submit_of_refused .notReady callback⟩
  | true =>
    cases s with
    | other typeName => exact .inl ⟨_, .unsupported, submit_of_refused .unsupported callback⟩
    | command c =>
      cases hlock : g.locked with
      | true => exact .inl ⟨_, .busy hlock, submit_of_refused (.busy hlock) callback⟩
      | false =>
        cases hstop : g.stopped with
        | true =>
          have h : Refused g (.command c) true .shutDown := .shutDown hlock hstop
          exact .inl ⟨_, h, submit_of_refused h callback⟩
        | false =>
          have h := submit_of_free hlock hstop c callback
          exact .inr ⟨c, rfl, rfl, rfl, rfl, by rw [h, hstop]⟩

theorem finish_nil {g : Gate κ} (h : g.running = []) (e : Ending) : g.finish e = g := by
  rw [finish, h]

theorem finish_cons {g : Gate κ} {i : Nat} {rest : List Nat} (h : g.running = i :: rest)
    (e : Ending) :
    g.finish e = { g with running := rest, locked := false }.resolve i e.outcome := by
  rw [finish, h]
  rfl

@[simp] theorem stopped_finish (g : Gate κ) (e : Ending) : (g.finish e).stopped = g.stopped := by
  cases h : g.running with
  | nil => rw [finish_nil h]
  | cons i rest => rw [finish_cons h, stopped_resolve]

@[simp] theorem running_stop (g : Gate κ) : g.stop.running = g.running := rfl

@[simp] theorem calls_stop (g : Gate κ) : g.stop.calls = g.calls := rfl

@[simp] theorem locked_stop (g : Gate κ) : g.stop.locked = g.locked := rfl

@[simp] theorem delivered_stop (g : Gate κ) : g.stop.delivered = g.delivered := rfl

end GestureScript.Gate
