import GestureScript.Proofs.Capability.Gate

/-!
# Performances at a gate

`Watched` runs a gate beside the worker behind it, and keeps what the worker was
given to perform. `Sound` ties the two together: the lock is held exactly during a
performance, and every call stands as its performance does. It holds after every
run. `Extends` says what a run leaves as it was.
-/

set_option autoImplicit false

namespace GestureScript.Gate

/-- A command that the worker was given, with the number of its call, and how it ended. -/
structure Performance where
  call : Nat
  command : Command
  ending : Option Ending := none

/-- The oldest performance that has not ended yet ends. -/
def endFirst (e : Ending) : List Performance → List Performance
  | [] => []
  | p :: ps => if p.ending.isNone then { p with ending := some e } :: ps else p :: endFirst e ps

structure Watched (κ : Type) where
  gate : Gate κ := {}
  /-- In the order in which the worker began with them. -/
  performances : List Performance := []

variable {κ : Type}

/-- The call has an outcome or none, and its callback was called with that and nothing else. -/
def Call.Has (call : Call κ) (o : Option Outcome) : Prop :=
  call.outcome = o ∧ call.told = if call.callback.isSome then o.toList else []

/-- The same call later on. Once it has an outcome, nothing about it changes. -/
def Call.Becomes (call later : Call κ) : Prop :=
  later.submission = call.submission ∧ later.callback = call.callback ∧
    (call.outcome.isSome → later = call)

/-- What the callback of a call was called with, by its target. -/
def Call.report? (call : Call κ) : Option (κ × Outcome) :=
  call.callback.bind fun k => call.outcome.map fun o => (k.target, o)

namespace Watched

/-- The worker begins with a command as soon as it is given it. -/
def step (w : Watched κ) : Step κ → Watched κ
  | .submit s ready callback =>
    let (gate, command) := w.gate.submit s ready callback
    ⟨gate, w.performances ++ (command.map fun c => ⟨w.gate.calls.length, c, none⟩).toList⟩
  | .finish e => ⟨w.gate.finish e, endFirst e w.performances⟩
  | .stop => ⟨w.gate.stop, w.performances⟩
  | .stopAndWait e => ⟨w.gate.stop.finish e, endFirst e w.performances⟩

def runFrom (w : Watched κ) (steps : List (Step κ)) : Watched κ := steps.foldl step w

/-- A run from a new gate. -/
def run (steps : List (Step κ)) : Watched κ := runFrom {} steps

/-- The performances in progress. -/
def unfinished (w : Watched κ) : List Performance := w.performances.filter (·.ending.isNone)

/-- Either nothing is in progress, or what the worker was given last. -/
inductive Phase (w : Watched κ) : Prop
  | idle : w.gate.locked = false → w.gate.running = [] →
      (∀ p ∈ w.performances, p.ending.isSome) → Phase w
  | busy (before : List Performance) (p : Performance) : w.gate.locked = true →
      w.gate.running = [p.call] → w.performances = before ++ [p] → p.ending = none →
      (∀ q ∈ before, q.ending.isSome) → Phase w

structure Sound (w : Watched κ) : Prop where
  phase : w.Phase
  performed : ∀ p ∈ w.performances, ∃ call, w.gate.calls[p.call]? = some call ∧
    call.Has (p.ending.map Ending.outcome)
  answered : ∀ i call, w.gate.calls[i]? = some call → (∀ p ∈ w.performances, p.call ≠ i) →
    ∃ o, call.Has (some o)
  /-- The worker is given commands in the order of their calls, and each once. -/
  ordered : (w.performances.map (·.call)).Pairwise (· < ·)
  reported : w.gate.delivered.Perm (w.gate.calls.filterMap Call.report?)

/-- What is kept of a watched gate later on: its calls, and what it gave the worker. -/
structure Extends (w later : Watched κ) : Prop where
  calls : ∀ (i : Nat) (call : Call κ), w.gate.calls[i]? = some call →
    ∃ call', later.gate.calls[i]? = some call' ∧ call.Becomes call'
  performances : ∃ more, later.performances.map (fun p => (p.call, p.command)) =
      w.performances.map (fun p => (p.call, p.command)) ++ more ∧
    ∀ x ∈ more, w.gate.calls.length ≤ x.1

theorem gate_step (w : Watched κ) (st : Step κ) : (w.step st).gate = w.gate.step st := by
  cases st <;> rfl

@[simp] theorem runFrom_nil (w : Watched κ) : w.runFrom [] = w := rfl

@[simp] theorem runFrom_cons (w : Watched κ) (st : Step κ) (steps : List (Step κ)) :
    w.runFrom (st :: steps) = (w.step st).runFrom steps := rfl

theorem runFrom_append (w : Watched κ) (first second : List (Step κ)) :
    w.runFrom (first ++ second) = (w.runFrom first).runFrom second := by simp [runFrom]

theorem gate_run (steps : List (Step κ)) : (run steps).gate = Gate.run {} steps := by
  suffices h : ∀ w : Watched κ, (w.runFrom steps).gate = w.gate.run steps from h {}
  induction steps with
  | nil => exact fun w => rfl
  | cons st steps ih =>
    intro w
    rw [runFrom_cons, ih, gate_step, run_cons]

/-! ## Steps of a watched gate -/

/-- The worker is given a command under the lock. -/
def accept (w : Watched κ) (c : Command) (callback : Option (Callback κ)) : Watched κ :=
  ⟨{ w.gate with locked := true }.start c callback,
    w.performances ++ [⟨w.gate.calls.length, c, none⟩]⟩

theorem step_submit_cases (w : Watched κ) (s : Submission) (ready : Bool)
    (callback : Option (Callback κ)) :
    (∃ o, Refused w.gate s ready o ∧
        w.step (.submit s ready callback) = ⟨w.gate.reject s callback o, w.performances⟩) ∨
      ∃ c, ready = true ∧ s = .command c ∧ w.gate.locked = false ∧ w.gate.stopped = false ∧
        w.step (.submit s ready callback) = w.accept c callback := by
  rcases submit_cases w.gate s ready callback with ⟨o, ho, h⟩ | ⟨c, hready, hs, hlock, hstop, h⟩
  · exact .inl ⟨o, ho, by simp [step, h]⟩
  · exact .inr ⟨c, hready, hs, hlock, hstop, by simp [step, h, accept]⟩

theorem step_stopAndWait (w : Watched κ) (e : Ending) :
    w.step (.stopAndWait e) = (w.step .stop).step (.finish e) := rfl

theorem endFirst_of_ended {ps : List Performance} (h : ∀ p ∈ ps, p.ending.isSome) (e : Ending) :
    endFirst e ps = ps := by
  induction ps with
  | nil => rfl
  | cons p ps ih =>
    obtain ⟨hp, hps⟩ := List.forall_mem_cons.mp h
    obtain ⟨ended, hended⟩ := Option.isSome_iff_exists.mp hp
    simp [endFirst, hended, ih hps]

theorem endFirst_append {before : List Performance} (h : ∀ q ∈ before, q.ending.isSome)
    {p : Performance} (hp : p.ending = none) (e : Ending) :
    endFirst e (before ++ [p]) = before ++ [{ p with ending := some e }] := by
  induction before with
  | nil => simp [endFirst, hp]
  | cons q before ih =>
    obtain ⟨hq, hbefore⟩ := List.forall_mem_cons.mp h
    obtain ⟨ended, hended⟩ := Option.isSome_iff_exists.mp hq
    simp [endFirst, hended, ih hbefore]

theorem step_finish_idle {w : Watched κ} (hrunning : w.gate.running = [])
    (hended : ∀ p ∈ w.performances, p.ending.isSome) (e : Ending) : w.step (.finish e) = w := by
  rw [step, finish_nil hrunning, endFirst_of_ended hended]

/-- The performance in progress ends: the lock is given back, and the call is answered. -/
theorem step_finish_busy {w : Watched κ} {before : List Performance} {p : Performance}
    (hrunning : w.gate.running = [p.call]) (hps : w.performances = before ++ [p])
    (hp : p.ending = none) (hbefore : ∀ q ∈ before, q.ending.isSome) (e : Ending) :
    w.step (.finish e) =
      ⟨{ w.gate with running := [], locked := false }.resolve p.call e.outcome,
        before ++ [{ p with ending := some e }]⟩ := by
  rw [step, finish_cons hrunning, hps, endFirst_append hbefore hp]

/-! ## Every run is sound -/

theorem sound_new : Sound ({} : Watched κ) where
  phase := .idle rfl rfl (by simp)
  performed := by simp
  answered := by simp
  ordered := by simp
  reported := by simp

theorem Sound.call_lt {w : Watched κ} (h : w.Sound) {p : Performance}
    (hp : p ∈ w.performances) : p.call < w.gate.calls.length := by
  obtain ⟨call, hcall, _⟩ := h.performed p hp
  exact (List.getElem?_eq_some_iff.mp hcall).1

theorem getElem?_append_of_some {α : Type} {as : List α} {i : Nat} {a : α} (h : as[i]? = some a)
    (bs : List α) : (as ++ bs)[i]? = some a := by
  rw [List.getElem?_append_left (List.getElem?_eq_some_iff.mp h).1, h]

theorem has_answered (s : Submission) (callback : Option (Callback κ)) (o : Outcome) :
    (Call.answered s callback o).Has (some o) := ⟨rfl, rfl⟩

theorem report?_answered (s : Submission) (callback : Option (Callback κ)) (o : Outcome) :
    (Call.answered s callback o).report? = callback.map fun k => (k.target, o) := by
  cases callback <;> rfl

theorem Sound.reject {w : Watched κ} (h : w.Sound) (s : Submission)
    (callback : Option (Callback κ)) (o : Outcome) :
    Sound ⟨w.gate.reject s callback o, w.performances⟩ where
  phase := by
    cases h.phase with
    | idle hlock hrunning hended => exact .idle (by simpa) (by simpa) hended
    | busy before p hlock hrunning hps hp hbefore =>
      exact .busy before p (by simpa) (by simpa) hps hp hbefore
  performed := by
    intro p hp
    obtain ⟨call, hcall, hhas⟩ := h.performed p hp
    exact ⟨call, by rw [calls_reject, getElem?_append_of_some hcall], hhas⟩
  answered := by
    intro i call hcall hnone
    rw [calls_reject, List.getElem?_append] at hcall
    split at hcall
    · exact h.answered i call hcall hnone
    · obtain rfl := List.mem_singleton.mp (List.mem_of_getElem? hcall)
      exact ⟨o, has_answered s callback o⟩
  ordered := h.ordered
  reported := by
    rw [delivered_reject, calls_reject, List.filterMap_append]
    apply h.reported.append
    cases callback <;> simp [report?_answered]

theorem Sound.accept {w : Watched κ} (h : w.Sound) (hlock : w.gate.locked = false) (c : Command)
    (callback : Option (Callback κ)) : (w.accept c callback).Sound := by
  obtain ⟨hrunning, hended⟩ : w.gate.running = [] ∧ ∀ p ∈ w.performances, p.ending.isSome := by
    cases h.phase with
    | idle _ hrunning hended => exact ⟨hrunning, hended⟩
    | busy _ _ hbusy => simp [hlock] at hbusy
  have hcalls : (w.accept c callback).gate.calls =
      w.gate.calls ++ [{ submission := .command c, callback := callback }] := rfl
  constructor
  case phase =>
    exact .busy w.performances ⟨w.gate.calls.length, c, none⟩ rfl
      (by simp [Watched.accept, start, addCall, hrunning]) rfl rfl hended
  case performed =>
    intro p hp
    rw [hcalls]
    rcases List.mem_append.mp hp with hp | hp
    · obtain ⟨call, hcall, hhas⟩ := h.performed p hp
      exact ⟨call, getElem?_append_of_some hcall _, hhas⟩
    · obtain rfl := List.mem_singleton.mp hp
      exact ⟨_, List.getElem?_concat_length, rfl, by simp⟩
  case answered =>
    intro i call hcall hnone
    rw [hcalls, List.getElem?_append] at hcall
    split at hcall
    · exact h.answered i call hcall fun p hp => hnone p (List.mem_append_left _ hp)
    next hlength =>
      -- the new call is the one that the worker was given
      have hlast : i - w.gate.calls.length < 1 := (List.getElem?_eq_some_iff.mp hcall).1
      have hi : w.gate.calls.length = i := by
        simp at hlength hlast
        omega
      exact absurd hi (hnone ⟨w.gate.calls.length, c, none⟩ (by simp [Watched.accept]))
  case ordered =>
    rw [Watched.accept, List.map_append, List.pairwise_append]
    refine ⟨h.ordered, by simp, ?_⟩
    intro i hi j hj
    obtain ⟨p, hp, rfl⟩ := List.mem_map.mp hi
    obtain rfl : j = w.gate.calls.length := by simpa using hj
    exact h.call_lt hp
  case reported =>
    have hdelivered : (w.accept c callback).gate.delivered = w.gate.delivered := rfl
    rw [hcalls, hdelivered, List.filterMap_append]
    simpa [Call.report?] using h.reported

/-- A call without an outcome is answered: its callback is called with that, once. -/
theorem has_resolve {call : Call κ} (h : call.Has none) (o : Outcome) :
    (call.resolve o).Has (some o) := by
  obtain ⟨_, htold⟩ := h
  cases hcallback : call.callback <;> simp_all [Call.Has, Call.resolve]

/-- The report of a call that is answered joins the reports of the other calls. -/
theorem reports_modify {calls : List (Call κ)} {i : Nat} {call : Call κ}
    (hcall : calls[i]? = some call) (hnone : call.outcome = none) (o : Outcome) :
    ((calls.modify i (Call.resolve o)).filterMap Call.report?).Perm
      (calls.filterMap Call.report? ++ (call.callback.map fun k => (k.target, o)).toList) := by
  obtain ⟨hlt, hget⟩ := List.getElem?_eq_some_iff.mp hcall
  have hold : call.report? = none := by cases h : call.callback <;> simp [Call.report?, h, hnone]
  have hnew : (call.resolve o).report? = call.callback.map fun k => (k.target, o) := by
    cases h : call.callback <;> simp [Call.report?, Call.resolve, h]
  obtain ⟨before, found, after, hsplit, hlength, hmodify⟩ :=
    List.exists_of_modify (Call.resolve o) hlt
  obtain rfl : found = call := by
    rw [← hget]
    simp [hsplit, ← hlength]
  rw [hmodify, hsplit, List.filterMap_append, List.filterMap_append, List.filterMap_cons,
    List.filterMap_cons, hold, hnew]
  cases found.callback with
  | none => simp
  | some k => simpa using List.perm_middle.trans (List.perm_append_singleton _ _).symm

theorem Sound.finish_busy {w : Watched κ} (h : w.Sound) {before : List Performance}
    {p : Performance} (hrunning : w.gate.running = [p.call])
    (hps : w.performances = before ++ [p]) (hp : p.ending = none)
    (hbefore : ∀ q ∈ before, q.ending.isSome) (e : Ending) : (w.step (.finish e)).Sound := by
  obtain ⟨call, hcall, hhas⟩ := h.performed p (by simp [hps])
  rw [hp, Option.map_none] at hhas
  have hordered := h.ordered
  rw [hps, List.map_append, List.pairwise_append] at hordered
  have hother : ∀ q ∈ before, p.call ≠ q.call := fun q hq =>
    Nat.ne_of_gt (hordered.2.2 q.call (List.mem_map_of_mem hq) p.call (by simp))
  rw [step_finish_busy hrunning hps hp hbefore]
  constructor
  case phase =>
    refine .idle (by simp) (by simp) ?_
    intro q hq
    rcases List.mem_append.mp hq with hq | hq
    · exact hbefore q hq
    · obtain rfl := List.mem_singleton.mp hq
      rfl
  case performed =>
    intro q hq
    rw [calls_resolve]
    rcases List.mem_append.mp hq with hq | hq
    · obtain ⟨other, hget, hother'⟩ := h.performed q (by simp [hps, hq])
      exact ⟨other, by rw [List.getElem?_modify_ne _ _ (hother q hq), hget], hother'⟩
    · obtain rfl := List.mem_singleton.mp hq
      exact ⟨call.resolve e.outcome, by simp [hcall], has_resolve hhas _⟩
  case answered =>
    intro i other hget hnone
    have hi : p.call ≠ i := hnone { p with ending := some e } (by simp)
    rw [calls_resolve, List.getElem?_modify_ne _ _ hi] at hget
    refine h.answered i other hget fun q hq => ?_
    rw [hps] at hq
    rcases List.mem_append.mp hq with hq | hq
    · exact hnone q (List.mem_append_left _ hq)
    · obtain rfl := List.mem_singleton.mp hq
      exact hi
  case ordered =>
    rw [List.map_append, List.pairwise_append]
    exact hordered
  case reported =>
    rw [delivered_resolve, calls_resolve, hcall]
    exact (h.reported.append_right _).trans (reports_modify hcall hhas.1 _).symm

theorem Sound.step {w : Watched κ} (h : w.Sound) (st : Step κ) : (w.step st).Sound := by
  have finish (w : Watched κ) (h : w.Sound) (e : Ending) : (w.step (.finish e)).Sound := by
    cases h.phase with
    | idle _ hrunning hended =>
      rw [step_finish_idle hrunning hended]
      exact h
    | busy before p _ hrunning hps hp hbefore => exact h.finish_busy hrunning hps hp hbefore e
  have stop : (w.step .stop).Sound := by
    refine ⟨?_, h.performed, h.answered, h.ordered, h.reported⟩
    cases h.phase with
    | idle hlock hrunning hended => exact .idle hlock hrunning hended
    | busy before p hlock hrunning hps hp hbefore =>
      exact .busy before p hlock hrunning hps hp hbefore
  cases st with
  | submit s ready callback =>
    rcases w.step_submit_cases s ready callback with ⟨o, _, hw⟩ | ⟨c, _, _, hlock, _, hw⟩
    · rw [hw]
      exact h.reject s callback o
    · rw [hw]
      exact h.accept hlock c callback
  | finish e => exact finish w h e
  | stop => exact stop
  | stopAndWait e =>
    rw [step_stopAndWait]
    exact finish _ stop e

theorem Sound.runFrom {w : Watched κ} (h : w.Sound) (steps : List (Step κ)) :
    (w.runFrom steps).Sound := by
  induction steps generalizing w with
  | nil => exact h
  | cons st steps ih => exact ih (h.step st)

theorem sound_run (steps : List (Step κ)) : (run steps).Sound := sound_new.runFrom steps

/-! ## What a run keeps -/

theorem becomes_refl (call : Call κ) : call.Becomes call := ⟨rfl, rfl, fun _ => rfl⟩

theorem Extends.refl (w : Watched κ) : w.Extends w :=
  ⟨fun _ call hcall => ⟨call, hcall, becomes_refl call⟩, [], by simp⟩

theorem Extends.length_le {w later : Watched κ} (h : w.Extends later) :
    w.gate.calls.length ≤ later.gate.calls.length := by
  apply Nat.le_of_not_lt
  intro hlt
  obtain ⟨call, hcall, _⟩ := h.calls _ _ (List.getElem?_eq_getElem hlt)
  simp at hcall

theorem Extends.trans {first second third : Watched κ} (h₁ : first.Extends second)
    (h₂ : second.Extends third) : first.Extends third := by
  constructor
  · intro i call hcall
    obtain ⟨call₁, hcall₁, hs₁, hk₁, hsame₁⟩ := h₁.calls i call hcall
    obtain ⟨call₂, hcall₂, hs₂, hk₂, hsame₂⟩ := h₂.calls i call₁ hcall₁
    refine ⟨call₂, hcall₂, hs₂.trans hs₁, hk₂.trans hk₁, fun hsome => ?_⟩
    have heq := hsame₁ hsome
    rw [hsame₂ (heq ▸ hsome), heq]
  · obtain ⟨more₁, heq₁, hge₁⟩ := h₁.performances
    obtain ⟨more₂, heq₂, hge₂⟩ := h₂.performances
    refine ⟨more₁ ++ more₂, by rw [heq₂, heq₁, List.append_assoc], fun x hx => ?_⟩
    rcases List.mem_append.mp hx with hx | hx
    · exact hge₁ x hx
    · exact Nat.le_trans h₁.length_le (hge₂ x hx)

/-- A new call comes after the others, and so does what the worker is given for it. -/
theorem extends_append {w later : Watched κ} {call : Call κ}
    (hcalls : later.gate.calls = w.gate.calls ++ [call]) {more : List Performance}
    (hps : later.performances = w.performances ++ more)
    (hmore : ∀ p ∈ more, p.call = w.gate.calls.length) : w.Extends later := by
  constructor
  · intro i old hold
    exact ⟨old, by rw [hcalls, getElem?_append_of_some hold], becomes_refl old⟩
  · refine ⟨more.map fun p => (p.call, p.command), by rw [hps, List.map_append], ?_⟩
    intro x hx
    obtain ⟨p, hp, rfl⟩ := List.mem_map.mp hx
    exact Nat.le_of_eq (hmore p hp).symm

theorem Sound.extends_finish {w : Watched κ} (h : w.Sound) (e : Ending) :
    w.Extends (w.step (.finish e)) := by
  cases h.phase with
  | idle _ hrunning hended =>
    rw [step_finish_idle hrunning hended]
    exact .refl w
  | busy before p _ hrunning hps hp hbefore =>
    obtain ⟨call, hcall, hhas⟩ := h.performed p (by simp [hps])
    rw [step_finish_busy hrunning hps hp hbefore]
    refine ⟨?_, [], by simp [hps]⟩
    intro i old hold
    rw [calls_resolve]
    by_cases hi : p.call = i
    · subst hi
      obtain rfl : call = old := Option.some.inj (hcall.symm.trans hold)
      refine ⟨call.resolve e.outcome, by simp [hcall], rfl, rfl, fun hsome => ?_⟩
      simp [hhas.1, hp] at hsome
    · exact ⟨old, by rw [List.getElem?_modify_ne _ _ hi, hold], becomes_refl old⟩

theorem Sound.extends_step {w : Watched κ} (h : w.Sound) (st : Step κ) :
    w.Extends (w.step st) := by
  have hstop : w.Extends (w.step .stop) :=
    ⟨(Extends.refl w).calls, (Extends.refl w).performances⟩
  cases st with
  | submit s ready callback =>
    rcases w.step_submit_cases s ready callback with ⟨o, _, hw⟩ | ⟨c, _, _, _, _, hw⟩
    · rw [hw]
      exact extends_append (calls_reject _ _ _ _) (List.append_nil _).symm (by simp)
    · rw [hw]
      exact extends_append rfl rfl (by simp)
  | finish e => exact h.extends_finish e
  | stop => exact hstop
  | stopAndWait e =>
    rw [step_stopAndWait]
    exact hstop.trans ((h.step .stop).extends_finish e)

theorem Sound.extends_runFrom {w : Watched κ} (h : w.Sound) (steps : List (Step κ)) :
    w.Extends (w.runFrom steps) := by
  induction steps generalizing w with
  | nil => exact .refl w
  | cons st steps ih => exact (h.extends_step st).trans (ih (h.step st))

end Watched

end GestureScript.Gate
