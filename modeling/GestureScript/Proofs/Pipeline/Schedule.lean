import GestureScript.Capability.DryRun
import GestureScript.Proofs.Pipeline.Moment

/-!
# Every schedule runs a script in order

However the two threads of a run take turns, the client finds the lock free whenever
it takes it, the sink hears of one command after the other, and what the client
returns in the end is what `runCommands` returns.
-/

set_option autoImplicit false

namespace GestureScript.Pipeline

variable {σ : Type}

/-- The calls between two states of a gate follow the course: each was answered with the
outcome of its performance, but for the last, which may not be answered yet. -/
def Follows (course : List (Command × Outcome)) (before after : Gate Nat) : Prop :=
  ∃ past, past <+: course ∧ (answers after = answers before ++ answered past ∨
    ∃ c o, past ++ [(c, o)] <+: course ∧
      answers after = answers before ++ answered past ++ [(.command c, none)])

/-- The sink heard a part of what it will hear. -/
def Tells (course : List (Command × Outcome)) (before after : Pipeline σ) : Prop :=
  ∃ told, after.statuses = before.statuses ++ told ∧ told <+: transcript course

namespace Run

variable {w : Worker σ} {run : Run w}

/-! ## Between two commands -/

section

variable {p : Pipeline σ} {cap : Capability σ Nat} {results : List Outcome}
  {ahead : List (Command × Outcome)} {rest : Except Fault (List Outcome) × Pipeline σ}

theorem Halfway.follows (h : run.Halfway p cap results ahead rest) :
    Follows run.course run.capability.gate cap.gate := by
  obtain ⟨past, hcourse, _, _, hanswers⟩ := h.past
  exact ⟨past, ⟨ahead, hcourse.symm⟩, .inl hanswers⟩

theorem Halfway.tells (h : run.Halfway p cap results ahead rest) :
    Tells run.course run.pipeline p := by
  obtain ⟨past, hcourse, _, hstatuses, _⟩ := h.past
  refine ⟨transcript past, hstatuses, transcript ahead, ?_⟩
  simp [hcourse, transcript]

end

/-! ## In the middle of a command -/

section

variable {scene : Scene σ} {run : Run scene.worker}
  {rest : Except Fault (List Outcome) × Pipeline σ}

theorem statuses_threads {fails : Status → Bool} (h : scene.pipeline.sink = .listening fails)
    (ph : Phase) :
    (scene.threads ph).pipeline.statuses = scene.pipeline.statuses ++
      .dispatched scene.command ::
        if ph.told then [.ended scene.command scene.outcome] else [] := by
  have hcalls : (scene.attempt.calls.map Event.called).filterMap Event.status? = [] := by
    simp [List.filterMap_map, Function.comp_def, Event.status?]
  cases ph <;>
    simp [statuses, Scene.threads, Scene.dispatched, Scene.ended, h, Sink.heard, Event.status?,
      hcalls]

theorem Halfway.tells_threads
    (h : run.Halfway scene.pipeline scene.capability scene.results
      (run.ahead (scene.command :: scene.todo) scene.capability) rest) (ph : Phase) :
    Tells run.course run.pipeline (scene.threads ph).pipeline := by
  obtain ⟨past, hcourse, _, hstatuses, _⟩ := h.past
  refine ⟨transcript past ++ .dispatched scene.command ::
    (if ph.told then [.ended scene.command scene.outcome] else []), ?_, ?_⟩
  · rw [statuses_threads (h.sink.trans run.listens), hstatuses, List.append_assoc]
  · rw [hcourse]
    cases ph.told <;> simp [transcript, ahead, Worker.course, Scene.outcome]

theorem Halfway.follows_threads
    (h : run.Halfway scene.pipeline scene.capability scene.results
      (run.ahead (scene.command :: scene.todo) scene.capability) rest) (ph : Phase) :
    Follows run.course run.capability.gate (scene.threads ph).capability.gate := by
  obtain ⟨past, hcourse, _, _, hanswers⟩ := h.past
  have hlast : past ++ [(scene.command, scene.outcome)] <+: run.course := by
    rw [hcourse, ahead, Worker.course, List.prefix_append_right_inj]
    exact List.prefix_append [_] _
  have hpast : past <+: run.course := (List.prefix_append _ _).trans hlast
  have hcalls : answers (scene.threads ph).capability.gate =
      answers run.capability.gate ++ answered past ++
        (scene.calls ph).map fun call => (call.submission, call.outcome) := by
    rw [← hanswers]
    simp [answers, Scene.threads, Scene.gate]
  cases ph with
  | acquiring | submitting => exact ⟨past, hpast, .inl (by simp [hcalls])⟩
  | queued attached | performing attached | releasing attached | completing attached =>
    exact ⟨past, hpast, .inr ⟨_, _, hlast, by simp [hcalls]⟩⟩
  | completed | telling attached | reporting attached | reported =>
    exact ⟨_, hlast, .inl (by simp [hcalls, answered])⟩

end

/-! ## What every moment says -/

section

variable {s : Threads σ} {r : Nat}

theorem Moment.locked_eq (h : run.Moment s r) {n : Nat} {c : Command}
    (hclient : s.client = .acquiring n c) : s.capability.gate.locked = false := by
  cases h with
  | busy scene ph _ _ => exact Scene.locked_of_acquiring hclient
  | ready h | pausing h | done h | broken f h => cases hclient

theorem Moment.follows (h : run.Moment s r) :
    Follows run.course run.capability.gate s.capability.gate := by
  cases h with
  | busy scene ph heq h =>
    subst heq
    exact h.follows_threads ph
  | ready h | pausing h | done h | broken f h => exact h.follows

theorem Moment.tells (h : run.Moment s r) : Tells run.course run.pipeline s.pipeline := by
  cases h with
  | busy scene ph heq h =>
    subst heq
    exact h.tells_threads ph
  | ready h | pausing h | done h | broken f h => exact h.tells

/-- What the client returned is what `runCommands` returns, and it leaves the same behind. -/
theorem Moment.answer_eq (h : run.Moment s r) {a : Except Fault (List Outcome)}
    (ha : s.answer? = some a) :
    runCommands w run.stopOnFailure run.commands run.pipeline =
      (a, s.pipeline.replace run.slot s.capability) := by
  cases h with
  | ready h | pausing h => cases ha
  | busy scene ph _ _ =>
    rw [Scene.answer?_threads] at ha
    cases ha
  | done h | broken f h =>
    cases ha
    simpa [prepend, Except.map] using h.sequential

/-- A client that went through all commands has all outcomes, and so has the sink. -/
theorem Moment.transcript_of_ok (h : run.Moment s r) {os : List Outcome}
    (hos : s.answer? = some (.ok os)) :
    os = run.course.map (·.2) ∧
      s.pipeline.statuses = run.pipeline.statuses ++ transcript run.course := by
  cases h with
  | ready h | pausing h | broken f h => cases hos
  | busy scene ph _ _ =>
    rw [Scene.answer?_threads] at hos
    cases hos
  | done h =>
    cases hos
    obtain ⟨past, hcourse, hresults, hstatuses, _⟩ := h.past
    rw [List.append_nil] at hcourse
    exact ⟨by rw [hresults, hcourse], by rw [hstatuses, hcourse]⟩

end

end Run

end GestureScript.Pipeline
