import GestureScript.Proofs.Pipeline.Scene
import GestureScript.Proofs.Pipeline.Script

/-!
# What two threads come to in a run

`Moment` is the invariant of a run by two threads: the threads are between two
commands or in a phase of one. Between two commands all is as `runCommands` has it
there, for the commands that are left. Every step leads from one moment to another
and nearer to the end, so from every moment the threads can get there.
-/

set_option autoImplicit false

namespace GestureScript.Pipeline

variable {σ : Type}

/-- The calls of a gate with their answers. -/
def answers (g : Gate Nat) : List (Submission × Option Outcome) :=
  g.calls.map fun call => (call.submission, call.outcome)

def answered (course : List (Command × Outcome)) : List (Submission × Option Outcome) :=
  course.map fun (c, o) => (.command c, some o)

/-- Commands to be run by a worker that stays ready, behind a gate that nobody else
uses, with a sink that listens. -/
structure Run (w : Worker σ) where
  fit : σ → Prop
  steady : w.Steady fit
  pipeline : Pipeline σ
  slot : Nat
  capability : Capability σ Nat
  serves : pipeline.Serves slot capability fit
  fails : Status → Bool
  listens : pipeline.sink = .listening fails
  stopOnFailure : Bool
  commands : List Command

namespace Run

variable {w : Worker σ} (run : Run w)

/-- What is left of the run when these commands are left. -/
def ahead (todo : List Command) (cap : Capability σ Nat) : List (Command × Outcome) :=
  w.course run.stopOnFailure todo cap.state

def course : List (Command × Outcome) := run.ahead run.commands run.capability

/-- What `runCommands` makes of the commands that are left. -/
def rest (todo : List Command) (p : Pipeline σ) (cap : Capability σ Nat) :
    Except Fault (List Outcome) × Pipeline σ :=
  runCommands w run.stopOnFailure todo (p.replace run.slot cap)

/-- The same, with a pause before it. -/
def restAfterPause (todo : List Command) (p : Pipeline σ) (cap : Capability σ Nat) :
    Except Fault (List Outcome) × Pipeline σ :=
  goOn w run.stopOnFailure todo (p.replace run.slot cap)

/-- The run between two commands: those of `ahead` are left, and give `rest`. -/
structure Halfway (p : Pipeline σ) (cap : Capability σ Nat) (results : List Outcome)
    (ahead : List (Command × Outcome)) (rest : Except Fault (List Outcome) × Pipeline σ) :
    Prop where
  serves : (p.replace run.slot cap).Serves run.slot cap run.fit
  sink : p.sink = run.pipeline.sink
  past : ∃ past, run.course = past ++ ahead ∧ results = past.map (·.2) ∧
    p.statuses = run.pipeline.statuses ++ transcript past ∧
    answers cap.gate = answers run.capability.gate ++ answered past
  sequential :
    runCommands w run.stopOnFailure run.commands run.pipeline = prepend results rest

/-- What the threads can come to, with a bound of the steps that are left. -/
inductive Moment : Threads σ → Nat → Prop
  | ready {p cap todo results} :
      run.Halfway p cap results (run.ahead todo cap) (run.rest todo p cap) →
      Moment ⟨p, cap, .ready, .idle, todo, results⟩ (12 * todo.length + 1)
  | busy (scene : Scene σ) (ph : Phase) : scene.worker = w →
      run.Halfway scene.pipeline scene.capability scene.results
        (run.ahead (scene.command :: scene.todo) scene.capability)
        (run.rest (scene.command :: scene.todo) scene.pipeline scene.capability) →
      Moment (scene.threads ph) (12 * scene.todo.length + 2 + ph.rank)
  | pausing {p cap todo results} :
      run.Halfway p cap results (run.ahead todo cap) (run.restAfterPause todo p cap) →
      Moment ⟨p, cap, .pausing, .idle, todo, results⟩ (12 * todo.length + 2)
  | done {p cap todo results} :
      run.Halfway p cap results [] (.ok [], p.replace run.slot cap) →
      Moment ⟨p, cap, .done, .idle, todo, results⟩ 0
  | broken {p cap todo results ahead} (f : Fault) :
      run.Halfway p cap results ahead (.error f, p.replace run.slot cap) →
      Moment ⟨p, cap, .broken f, .idle, todo, results⟩ 0

variable {run}

/-! ## From one command to the next -/

/-- A command is carried out. -/
theorem Halfway.served {scene : Scene σ} {run : Run scene.worker}
    (h : run.Halfway scene.pipeline scene.capability scene.results
      (run.ahead (scene.command :: scene.todo) scene.capability)
      (run.rest (scene.command :: scene.todo) scene.pipeline scene.capability)) :
    run.Halfway scene.pipelineAfter scene.capabilityAfter (scene.results ++ [scene.outcome])
      (if run.stopOnFailure && scene.outcome.isFailure then []
        else run.ahead scene.todo scene.capabilityAfter)
      (if run.stopOnFailure && scene.outcome.isFailure || scene.todo.isEmpty
        then (.ok [], scene.pipelineAfter.replace run.slot scene.capabilityAfter)
        else run.restAfterPause scene.todo scene.pipelineAfter scene.capabilityAfter) := by
  have hafter : ((scene.pipeline.replace run.slot scene.capability).served scene.worker
      scene.capability scene.command).replace run.slot scene.capabilityAfter =
      scene.pipelineAfter.replace run.slot scene.capabilityAfter := by
    simp [replace, Pipeline.served, Scene.pipelineAfter]
  obtain ⟨past, hcourse, hresults, hstatuses, hanswers⟩ := h.past
  constructor
  case serves =>
    rw [← hafter]
    exact h.serves.served run.steady scene.command
  case sink => exact h.sink
  case past =>
    refine ⟨past ++ [(scene.command, scene.outcome)], ?_, by simp [hresults], ?_, ?_⟩
    · rw [hcourse, List.append_assoc]
      rfl
    · rw [Scene.pipelineAfter, statuses_served (h.sink.trans run.listens), hstatuses]
      simp [transcript, Scene.outcome]
    · have hserved : answers scene.capabilityAfter.gate = answers scene.capability.gate ++
          answered [(scene.command, scene.outcome)] := by
        simp [answers, answered, Scene.capabilityAfter, Capability.served, Gate.served,
          Scene.outcome]
      rw [hserved, hanswers]
      simp [answered]
  case sequential =>
    rw [h.sequential, rest, h.serves.runCommands_cons run.steady, ← prepend_prepend,
      restAfterPause, ← hafter]
    rfl

/-- The client begins with the next command, or has done all of them. -/
theorem Halfway.step_ready {p : Pipeline σ} {cap : Capability σ Nat} {todo : List Command}
    {results : List Outcome}
    (h : run.Halfway p cap results (run.ahead todo cap) (run.rest todo p cap)) :
    ∃ s r,
      Threads.clientStep? w run.stopOnFailure ⟨p, cap, .ready, .idle, todo, results⟩ = some s ∧
      r < 12 * todo.length + 1 ∧ run.Moment s r := by
  cases todo with
  | nil => exact ⟨_, 0, rfl, by simp, .done h⟩
  | cons c todo =>
    refine ⟨_, _, Scene.clientStep?_ready run.steady h.serves.fit h.serves.free _ _ _ _, ?_,
      .busy ⟨w, p, cap, c, todo, results⟩ .acquiring rfl h⟩
    simp only [Phase.rank, List.length_cons]
    omega

/-- The client has the outcome of a command, and is done or pauses before the next. -/
theorem Halfway.step_reported {scene : Scene σ} {run : Run scene.worker}
    (h : run.Halfway scene.pipeline scene.capability scene.results
      (run.ahead (scene.command :: scene.todo) scene.capability)
      (run.rest (scene.command :: scene.todo) scene.pipeline scene.capability)) :
    ∃ s r, (scene.threads .reported).clientStep? scene.worker run.stopOnFailure = some s ∧
      r < 12 * scene.todo.length + 3 ∧ run.Moment s r := by
  have hserved := h.served
  rw [Scene.clientStep?_reported h.serves.free]
  cases hover : run.stopOnFailure && scene.outcome.isFailure || scene.todo.isEmpty with
  | true =>
    -- nothing is left, either way
    have hahead : (if run.stopOnFailure && scene.outcome.isFailure then [] else
        run.ahead scene.todo scene.capabilityAfter) = [] := by
      rcases Bool.or_eq_true_iff.mp hover with hfailed | hempty
      · rw [if_pos hfailed]
      · rw [List.isEmpty_iff.mp hempty]
        simp [ahead, Worker.course]
    rw [hahead, if_pos hover] at hserved
    refine ⟨_, 0, rfl, by omega, ?_⟩
    rw [Threads.resume, if_pos hover]
    exact .done hserved
  | false =>
    have hgoing : (run.stopOnFailure && scene.outcome.isFailure) = false :=
      (Bool.or_eq_false_iff.mp hover).1
    rw [if_neg (Bool.eq_false_iff.mp hgoing), if_neg (Bool.eq_false_iff.mp hover)] at hserved
    refine ⟨_, _, rfl, Nat.lt_succ_self _, ?_⟩
    rw [Threads.resume, if_neg (Bool.eq_false_iff.mp hover)]
    exact .pausing hserved

/-- The client makes a pause, or the run breaks off. -/
theorem Halfway.step_pausing {p : Pipeline σ} {cap : Capability σ Nat} {todo : List Command}
    {results : List Outcome}
    (h : run.Halfway p cap results (run.ahead todo cap) (run.restAfterPause todo p cap)) :
    ∃ s r,
      Threads.clientStep? w run.stopOnFailure ⟨p, cap, .pausing, .idle, todo, results⟩ = some s ∧
      r < 12 * todo.length + 2 ∧ run.Moment s r := by
  have hserves : (p.pause.2.replace run.slot cap).Serves run.slot cap run.fit := by
    have hpaused := h.serves.pause
    rwa [pause_replace] at hpaused
  have hpast := h.past
  rw [← statuses_pause] at hpast
  have hsink : p.pause.2.sink = run.pipeline.sink := by rw [sink_pause, h.sink]
  have hsequential := h.sequential
  rw [restAfterPause, goOn, pause_replace] at hsequential
  cases hpause : p.pause with
  | mk made p' =>
    rw [hpause] at hserves hpast hsink hsequential
    cases made with
    | error f =>
      have hstep : Threads.clientStep? w run.stopOnFailure
          ⟨p, cap, .pausing, .idle, todo, results⟩ =
          some ⟨p', cap, .broken f, .idle, todo, results⟩ := by
        simp only [Threads.clientStep?, hpause]
      exact ⟨_, 0, hstep, by omega, .broken f ⟨hserves, hsink, hpast, hsequential⟩⟩
    | ok made =>
      have hstep : Threads.clientStep? w run.stopOnFailure
          ⟨p, cap, .pausing, .idle, todo, results⟩ =
          some ⟨p', cap, .ready, .idle, todo, results⟩ := by
        simp only [Threads.clientStep?, hpause]
      exact ⟨_, _, hstep, Nat.lt_succ_self _, .ready ⟨hserves, hsink, hpast, hsequential⟩⟩

/-! ## Every moment leads to another -/

/-- Between two commands the performer has nothing to do. -/
theorem performerStep?_of_free {p : Pipeline σ} {cap : Capability σ Nat} (h : cap.gate.Free)
    (client : Client) (todo : List Command) (results : List Outcome) :
    Threads.performerStep? w ⟨p, cap, client, .idle, todo, results⟩ = none := by
  simp [Threads.performerStep?, Threads.take?, h.running]

theorem Moment.step {s s' : Threads σ} {r : Nat} (h : run.Moment s r) {t : Thread}
    (hs : s.step? w run.stopOnFailure t = some s') : ∃ r' < r, run.Moment s' r' := by
  -- a step of the client is the one that was foreseen
  have foreseen {bound : Nat} (hclient : ∃ s'' r', s.clientStep? w run.stopOnFailure = some s'' ∧
      r' < bound ∧ run.Moment s'' r') (ht : t = .client) : ∃ r' < bound, run.Moment s' r' := by
    subst ht
    obtain ⟨s'', r', hstep, hlt, hmoment⟩ := hclient
    obtain rfl : s'' = s' := Option.some.inj (hstep.symm.trans hs)
    exact ⟨r', hlt, hmoment⟩
  cases h with
  | ready h =>
    cases t with
    | client => exact foreseen h.step_ready rfl
    | performer => simp [Threads.step?, performerStep?_of_free h.serves.free] at hs
  | busy scene ph heq h =>
    subst heq
    by_cases hreported : ph = .reported
    · subst hreported
      cases t with
      | client => exact foreseen h.step_reported rfl
      | performer => simp [Threads.step?, Scene.performerStep?_threads] at hs
    · rw [Scene.step?_threads run.steady h.serves.fit h.serves.free _ hreported] at hs
      obtain ⟨later, hnext, rfl⟩ := Option.map_eq_some_iff.mp hs
      exact ⟨_, Nat.add_lt_add_left (Phase.rank_next hnext) _, .busy scene later rfl h⟩
  | pausing h =>
    cases t with
    | client => exact foreseen h.step_pausing rfl
    | performer => simp [Threads.step?, performerStep?_of_free h.serves.free] at hs
  | done h =>
    cases t with
    | client => cases hs
    | performer => simp [Threads.step?, performerStep?_of_free h.serves.free] at hs
  | broken f h =>
    cases t with
    | client => cases hs
    | performer => simp [Threads.step?, performerStep?_of_free h.serves.free] at hs

/-- As long as the client has no answer, one of the threads can go on. -/
theorem Moment.progress {s : Threads σ} {r : Nat} (h : run.Moment s r)
    (hanswer : s.answer? = none) : ∃ t s', s.step? w run.stopOnFailure t = some s' := by
  cases h with
  | ready h =>
    obtain ⟨s', _, hstep, _⟩ := h.step_ready
    exact ⟨.client, s', hstep⟩
  | busy scene ph heq h =>
    subst heq
    by_cases hreported : ph = .reported
    · subst hreported
      obtain ⟨s', _, hstep, _⟩ := h.step_reported
      exact ⟨.client, s', hstep⟩
    · obtain ⟨t, later, hnext⟩ := Phase.exists_next hreported
      have hstep := Scene.step?_threads run.steady h.serves.fit h.serves.free run.stopOnFailure
        hreported t
      exact ⟨t, scene.threads later, by rw [hstep, hnext, Option.map_some]⟩
  | pausing h =>
    obtain ⟨s', _, hstep, _⟩ := h.step_pausing
    exact ⟨.client, s', hstep⟩
  | done h => cases hanswer
  | broken f h => cases hanswer

theorem Moment.of_turns {s : Threads σ} {r : Nat} (h : run.Moment s r) (turns : List Thread) :
    ∃ r', run.Moment (s.run w run.stopOnFailure turns) r' := by
  induction turns generalizing s r with
  | nil => exact ⟨r, h⟩
  | cons t turns ih =>
    rw [Threads.run_cons, Threads.step]
    cases hs : s.step? w run.stopOnFailure t with
    | none => exact ih h
    | some s' =>
      obtain ⟨r', _, hmoment⟩ := h.step hs
      exact ih hmoment

/-- From every moment the threads can get to an answer. -/
theorem Moment.exists_answer {s : Threads σ} {r : Nat} (h : run.Moment s r) :
    ∃ turns, (s.run w run.stopOnFailure turns).answer?.isSome := by
  -- the bound of the steps that are left gets smaller with each of them
  induction r using Nat.strongRecOn generalizing s with
  | ind r ih =>
    cases hanswer : s.answer? with
    | some a => exact ⟨[], by simp [hanswer]⟩
    | none =>
      obtain ⟨t, s', hs⟩ := h.progress hanswer
      obtain ⟨r', hlt, hmoment⟩ := h.step hs
      obtain ⟨turns, hturns⟩ := ih r' hlt hmoment
      exact ⟨t :: turns, by rwa [Threads.run_cons, Threads.step, hs, Option.getD_some]⟩

theorem moment_start (run : Run w) :
    run.Moment (Threads.start run.pipeline run.capability run.commands)
      (12 * run.commands.length + 1) := by
  have hsame : run.pipeline.replace run.slot run.capability = run.pipeline := by
    obtain ⟨hlt, hget⟩ := List.getElem?_eq_some_iff.mp run.serves.found
    rw [replace, ← hget, List.set_getElem_self]
  have hpast : ∃ past, run.course = past ++ run.course ∧ [] = past.map (·.2) ∧
      run.pipeline.statuses = run.pipeline.statuses ++ transcript past ∧
      answers run.capability.gate = answers run.capability.gate ++ answered past :=
    ⟨[], by simp [transcript, answered]⟩
  refine .ready ⟨?_, rfl, hpast, ?_⟩
  · rw [hsame]
    exact run.serves
  · rw [prepend_nil, rest, hsame]

end Run

end GestureScript.Pipeline
