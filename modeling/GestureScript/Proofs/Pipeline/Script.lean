import GestureScript.Proofs.Pipeline.Dispatch

/-!
# Scripts for a capability that is free

`runCommands` carries out the first command, pauses, and goes on with those that are
left. A pause changes nothing that the commands depend on.
-/

set_option autoImplicit false

namespace GestureScript.Pipeline

variable {σ : Type}

/-- What a sink hears of some commands. -/
def transcript (course : List (Command × Outcome)) : List Status :=
  course.flatMap fun (c, o) => [.dispatched c, .ended c o]

theorem statuses_served {p : Pipeline σ} {fails : Status → Bool} (h : p.sink = .listening fails)
    (w : Worker σ) (cap : Capability σ Nat) (c : Command) :
    (p.served w cap c).statuses =
      p.statuses ++ transcript [(c, w.outcome c cap.state)] := by
  have hcalls : ((w.attempt c cap.state).calls.map Event.called).filterMap Event.status? = [] := by
    simp [List.filterMap_map, Function.comp_def, Event.status?]
  simp [statuses, served, transcript, h, Sink.heard, Event.status?, hcalls]

/-! ## Pauses -/

/-- A pause is made or not, and leaves only a trace of that. -/
theorem pause_cases (p : Pipeline σ) :
    (∃ f, p.pause = (.error f, p)) ∨ p.pause = (.ok (), p) ∨
      p.pause = (.ok (), p.record (.paused p.settings.commandDelay)) := by
  unfold pause
  dsimp only
  split
  · split
    next f _ => exact .inl ⟨f, rfl⟩
    · exact .inr (.inr rfl)
  · exact .inr (.inl rfl)

theorem pause_replace (p : Pipeline σ) (i : Nat) (cap : Capability σ Nat) :
    (p.replace i cap).pause = (p.pause.1, p.pause.2.replace i cap) := by
  have hfault : (p.replace i cap).pauseFault? = p.pauseFault? := rfl
  unfold pause
  dsimp only
  rw [hfault]
  cases hdelay : p.settings.commandDelay.isPositive with
  | false => simp [replace, hdelay]
  | true =>
    cases hbroken : p.pauseFault? p.settings.commandDelay <;>
      simp [replace, record, hdelay, hbroken]

theorem statuses_pause (p : Pipeline σ) : p.pause.2.statuses = p.statuses := by
  rcases p.pause_cases with ⟨f, h⟩ | h | h <;> simp [h, statuses, Event.status?]

theorem sink_pause (p : Pipeline σ) : p.pause.2.sink = p.sink := by
  rcases p.pause_cases with ⟨f, h⟩ | h | h <;> simp [h, record]

theorem Serves.pause {p : Pipeline σ} {i : Nat} {cap : Capability σ Nat} {fit : σ → Prop}
    (h : p.Serves i cap fit) : p.pause.2.Serves i cap fit := by
  have hrecord : (p.record (.paused p.settings.commandDelay)).Serves i cap fit :=
    ⟨h.attached, h.found, h.free, h.fit⟩
  rcases p.pause_cases with ⟨f, hp⟩ | hp | hp
  · simpa [hp] using h
  · simpa [hp] using h
  · simpa [hp] using hrecord

/-! ## One command after the other -/

def prepend (os : List Outcome) (answer : Except Fault (List Outcome) × Pipeline σ) :
    Except Fault (List Outcome) × Pipeline σ :=
  (answer.1.map (os ++ ·), answer.2)

/-- Pause, and then carry out the commands that are left. -/
def goOn (w : Worker σ) (stopOnFailure : Bool) (cs : List Command) (p : Pipeline σ) :
    Except Fault (List Outcome) × Pipeline σ :=
  match p.pause with
  | (.error f, p) => (.error f, p)
  | (.ok (), p) => runCommands w stopOnFailure cs p

theorem prepend_nil (answer : Except Fault (List Outcome) × Pipeline σ) :
    prepend [] answer = answer := by
  obtain ⟨r, p⟩ := answer
  cases r <;> rfl

theorem prepend_prepend (first second : List Outcome)
    (answer : Except Fault (List Outcome) × Pipeline σ) :
    prepend first (prepend second answer) = prepend (first ++ second) answer := by
  obtain ⟨r, p⟩ := answer
  cases r <;> simp [prepend, Except.map]

/-- After a command the run ends, or goes on with the next one. -/
theorem runCommands_of_carryOut {w : Worker σ} {p after : Pipeline σ} {c : Command} {o : Outcome}
    (h : p.carryOut w c = (.ok o, after)) (stopOnFailure : Bool) (cs : List Command) :
    runCommands w stopOnFailure (c :: cs) p =
      prepend [o] (if stopOnFailure && o.isFailure || cs.isEmpty then (.ok [], after)
        else goOn w stopOnFailure cs after) := by
  rw [runCommands, h]
  dsimp only
  split
  · rfl
  · unfold goOn
    generalize Pipeline.pause _ = paused
    obtain ⟨made, after⟩ := paused
    cases made <;> rfl

theorem Serves.runCommands_cons {w : Worker σ} {fit : σ → Prop} (hw : w.Steady fit)
    {p : Pipeline σ} {i : Nat} {cap : Capability σ Nat} (h : p.Serves i cap fit)
    (stopOnFailure : Bool) (c : Command) (cs : List Command) :
    runCommands w stopOnFailure (c :: cs) p =
      let o := w.outcome c cap.state
      let after := (p.served w cap c).replace i (cap.served w c p.dispatches.length)
      prepend [o] (if stopOnFailure && o.isFailure || cs.isEmpty then (.ok [], after)
        else goOn w stopOnFailure cs after) :=
  runCommands_of_carryOut (h.carryOut hw c) stopOnFailure cs

end GestureScript.Pipeline
