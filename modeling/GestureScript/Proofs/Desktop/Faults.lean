import GestureScript.Proofs.Desktop.Pointer

/-!
# Faults on a desktop

A command is carried out in steps, in a fixed order. Most steps are calls; the others read the
size and compare points with it, convert a duration, or look for a clipboard. Any of them may
fail, and then no other step is taken: `walk` says so for a list of steps, and every command is
shown to be a walk along its steps. The calls among the steps are those of its gesture.
-/

set_option autoImplicit false

namespace GestureScript

namespace Workplace

/-- A step on the way through a command. -/
inductive Step where
  /-- Read the size of the screen, and compare the points with it. -/
  | measure (points : List Point)
  /-- Make seconds of a duration in milliseconds. -/
  | convert (duration : Int)
  | findClipboard
  | call (c : DeviceCall)
  deriving DecidableEq

/-- The steps of a command, in order. -/
def steps (w : Workplace) : Command → List Step
  | .tap points duration => .measure points :: .convert duration :: points.flatMap fun p =>
    [.call (.moveTo p.x p.y), .call .mouseDown, .call (.sleep (lasting duration)), .call .mouseUp]
  | .swipe start finish duration =>
    [.measure [start, finish], .call (.moveTo start.x start.y), .convert duration,
      .call (.dragTo finish.x finish.y (lasting duration))]
  | .scroll direction duration =>
    [.call (wheel w.settings.scrollAmount direction), .convert duration,
      .call (.sleep (lasting duration))]
  | .typeText text commit clear =>
    (if clear then [.call (.hotkey [w.platform.modifier, "a"]), .call (.press "backspace")]
      else []) ++
    ((if isAscii text then [.call (.write text w.settings.typingInterval)]
      else [.findClipboard, .call (.copy text), .call (.sleep pasteDelay),
        .call (.hotkey [w.platform.modifier, "v"]), .call (.sleep pasteDelay)]) ++
    (if commit then [.call (.press "enter")] else []))
  | .wait duration => [.convert duration, .call (.sleep (lasting duration))]
  | .press button => [.call (.hotkey (w.settings.hotkey button))]

namespace Step

def call? : Step → Option DeviceCall
  | .call c => some c
  | .measure _ | .convert _ | .findClipboard => none

/-- Why a step fails, if it does, on a machine with this log. -/
def fault? (w : Workplace) (log : DeviceLog) : Step → Option Fault
  | .measure points =>
    match w.verdict points log.polls with
    | .error f => some f
    | .ok _ => none
  | .convert duration => if (seconds? duration).isSome then none else some .durationTooLarge
  | .findClipboard => if w.device.hasClipboard then none else some .noClipboard
  | .call c => w.device.fault log.calls c

/-- What the machine records of a step, whether it fails or not. -/
def record (log : DeviceLog) : Step → DeviceLog
  | .measure _ => { log with polls := log.polls + 1 }
  | .convert _ => log
  | .findClipboard => log
  | .call c => { log with calls := log.calls ++ [c] }

/-- How the fault of a step is reported. What keeps a text from the clipboard is reported in
one way, whatever it is. Elsewhere a refusal speaks for itself. -/
def failure : Step → Fault → Failure
  | .findClipboard, f | .call (.copy _), f =>
    ⟨"Clipboard unavailable: " ++ f.message, some f, .textInputUnavailable⟩
  | _, .refused kind reason => ⟨reason, none, kind⟩
  | _, .refusedBecause kind reason cause => ⟨reason, some cause, kind⟩
  | _, .failSafe message =>
    ⟨"Pointer reached a screen corner, fail-safe triggered", some (.failSafe message),
      .boundaryViolation⟩
  | _, f => ⟨"Input dispatch failed: " ++ f.message, some f, .dispatchFailed⟩

/-- The fault as it leaves the step. -/
def thrown : Step → Fault → Fault
  | .findClipboard, f | .call (.copy _), f => clipboardUnavailable f
  | _, f => f

theorem ofFault_reported (s : Step) (f : Fault) :
    Outcome.ofFault (reported (s.thrown f)) = .failure (s.failure f) := by
  cases s with
  | findClipboard => rfl
  | measure points => cases f <;> rfl
  | convert duration => cases f <;> rfl
  | call c => cases c <;> cases f <;> rfl

end Step

/-- What the machine records of some steps. -/
def recorded (log : DeviceLog) (steps : List Step) : DeviceLog := steps.foldl Step.record log

/-- None of the steps fails, each taken after those before it. -/
def Passes (w : Workplace) : DeviceLog → List Step → Prop
  | _, [] => True
  | log, s :: ss => s.fault? w log = none ∧ Passes w (s.record log) ss

/-- Take steps, up to the first that fails. -/
def walk (w : Workplace) : List Step → DeviceLog → Except Fault Unit × DeviceLog
  | [], log => (.ok (), log)
  | s :: ss, log =>
    match s.fault? w log with
    | some f => (.error (s.thrown f), s.record log)
    | none => walk w ss (s.record log)

/-! ## Walks -/

theorem calls_recorded (log : DeviceLog) (steps : List Step) :
    (recorded log steps).calls = log.calls ++ steps.filterMap Step.call? := by
  induction steps generalizing log with
  | nil => simp [recorded]
  | cons s ss ih =>
    rw [recorded, List.foldl_cons, ← recorded, ih]
    cases s <;> simp [Step.record, Step.call?, List.filterMap_cons]

variable {w : Workplace}

theorem walk_append (ss ts : List Step) (log : DeviceLog) :
    walk w (ss ++ ts) log =
      match walk w ss log with
      | (.ok _, after) => walk w ts after
      | (.error f, after) => (.error f, after) := by
  induction ss generalizing log with
  | nil => rfl
  | cons s ss ih =>
    rw [List.cons_append, walk, walk]
    cases s.fault? w log with
    | some f => rfl
    | none => exact ih (s.record log)

/-- A walk goes along all steps if they pass, and otherwise up to and with the first that does
not. -/
theorem walk_cases (w : Workplace) (steps : List Step) (log : DeviceLog) :
    (Passes w log steps ∧ walk w steps log = (.ok (), recorded log steps)) ∨
    ∃ taken s left f, steps = taken ++ s :: left ∧ Passes w log taken ∧
      s.fault? w (recorded log taken) = some f ∧
      walk w steps log = (.error (s.thrown f), recorded log (taken ++ [s])) := by
  induction steps generalizing log with
  | nil => exact .inl ⟨trivial, rfl⟩
  | cons s ss ih =>
    cases hfault : s.fault? w log with
    | some f =>
      refine .inr ⟨[], s, ss, f, rfl, trivial, hfault, ?_⟩
      rw [walk, hfault]
      rfl
    | none =>
      have hwalk : walk w (s :: ss) log = walk w ss (s.record log) := by rw [walk, hfault]
      rw [hwalk]
      rcases ih (s.record log) with ⟨hpasses, hend⟩ | ⟨taken, t, left, f, rfl, hpasses, hf, hend⟩
      · exact .inl ⟨⟨hfault, hpasses⟩, hend⟩
      · exact .inr ⟨s :: taken, t, left, f, rfl, ⟨hfault, hpasses⟩, hf, hend⟩

theorem not_passes_of_fault {log : DeviceLog} {taken : List Step} {s : Step} {f : Fault}
    (hpasses : Passes w log taken) (hfault : s.fault? w (recorded log taken) = some f)
    (left : List Step) : ¬Passes w log (taken ++ s :: left) := by
  induction taken generalizing log with
  | nil =>
    rintro ⟨hnone, -⟩
    rw [recorded, List.foldl_nil, hnone] at hfault
    contradiction
  | cons t taken ih =>
    rintro ⟨-, hrest⟩
    exact ih hpasses.2 hfault hrest

/-! ## Acts that are walks -/

/-- The act takes the steps, up to the first that fails. -/
def Follows (w : Workplace) (a : Act Unit) (steps : List Step) : Prop :=
  ∀ log : DeviceLog, a.run.run log = walk w steps log

theorem follows_pure : Follows w (pure ()) [] := fun _ => rfl

theorem Follows.bind {a b : Act Unit} {ss ts : List Step} (ha : Follows w a ss)
    (hb : Follows w b ts) : Follows w (a >>= fun _ => b) (ss ++ ts) := by
  intro log
  rw [run_bind, ha log, walk_append]
  generalize walk w ss log = answer
  obtain ⟨result, after⟩ := answer
  cases result with
  | error f => rfl
  | ok _ => exact hb after

theorem follows_call {c : DeviceCall} (h : ∀ text, c ≠ .copy text) :
    Follows w (w.device.call c) [.call c] := by
  intro log
  have hthrown : ∀ f, (Step.call c).thrown f = f := by
    intro f
    cases c with
    | copy text => exact absurd rfl (h text)
    | moveTo | mouseDown | mouseUp | dragTo | scroll | scrollSideways | hotkey | press | write
    | sleep => rfl
  rw [run_call, walk, Step.fault?]
  cases w.device.fault log.calls c with
  | none => rfl
  | some f => simp only [hthrown, Step.record]

theorem follows_copy (text : String) :
    Follows w (w.copy text) [.findClipboard, .call (.copy text)] := by
  intro log
  rw [copy]
  by_cases hclipboard : w.device.hasClipboard = true
  · rw [if_pos hclipboard, run_tryCatch, run_call]
    simp only [walk, Step.fault?, hclipboard, if_true, Step.record]
    cases w.device.fault log.calls (.copy text) <;> rfl
  · rw [if_neg hclipboard]
    simp only [walk, Step.fault?, hclipboard]
    rfl

theorem follows_checkPoints (points : List Point) :
    Follows w (w.checkPoints points) [.measure points] := by
  intro log
  rw [run_checkPoints, walk, Step.fault?]
  cases w.verdict points log.polls with
  | error f => rfl
  | ok _ => rfl

/-- After the conversion the duration is known in seconds. -/
theorem Follows.seconds {duration : Int} {a : Binary64 → Act Unit} {ss : List Step}
    (h : Follows w (a (lasting duration)) ss) :
    Follows w (seconds duration >>= a) (.convert duration :: ss) := by
  intro log
  rw [walk, Step.fault?]
  by_cases hduration : (seconds? duration).isSome = true
  · rw [if_pos hduration, seconds_eq hduration, pure_bind]
    exact h log
  · have hnone : seconds? duration = none := by simpa using hduration
    rw [if_neg hduration, Workplace.seconds, hnone]
    rfl

theorem follows_forM {α : Type} {f : α → Act Unit} {steps : α → List Step}
    (h : ∀ x, Follows w (f x) (steps x)) (xs : List α) :
    Follows w (xs.forM f) (xs.flatMap steps) := by
  induction xs with
  | nil => exact follows_pure
  | cons x xs ih =>
    rw [List.flatMap_cons]
    exact (h x).bind ih

/-! ## Commands are walks -/

theorem follows_wait (duration : Int) :
    Follows w (w.wait duration) [.convert duration, .call (.sleep (lasting duration))] :=
  (follows_call (by simp)).seconds

theorem follows_tap (points : List Point) (duration : Int) :
    Follows w (w.tap points duration) (w.steps (.tap points duration)) := by
  have hpoint : ∀ p : Point, Follows w (w.tapAt (lasting duration) p)
      [.call (.moveTo p.x p.y), .call .mouseDown, .call (.sleep (lasting duration)),
        .call .mouseUp] := fun p =>
    (follows_call (by simp)).bind ((follows_call (by simp)).bind
      ((follows_call (by simp)).bind (follows_call (by simp))))
  exact (follows_checkPoints points).bind (follows_forM hpoint points).seconds

theorem follows_swipe (start finish : Point) (duration : Int) :
    Follows w (w.swipe start finish duration) (w.steps (.swipe start finish duration)) :=
  (follows_checkPoints _).bind ((follows_call (by simp)).bind (follows_call (by simp)).seconds)

theorem follows_scroll (direction : Direction) (duration : Int) :
    Follows w (w.scroll direction duration) (w.steps (.scroll direction duration)) := by
  have hwheel : ∀ text, wheel w.settings.scrollAmount direction ≠ .copy text := by
    intro text
    cases direction <;> simp [wheel]
  exact (follows_call hwheel).bind (follows_wait duration)

theorem follows_enter (text : String) : Follows w (w.enter text)
    (if isAscii text then [.call (.write text w.settings.typingInterval)]
      else [.findClipboard, .call (.copy text), .call (.sleep pasteDelay),
        .call (.hotkey [w.platform.modifier, "v"]), .call (.sleep pasteDelay)]) := by
  rw [enter]
  split
  · exact follows_call (by simp)
  · exact (follows_copy text).bind ((follows_call (by simp)).bind
      ((follows_call (by simp)).bind (follows_call (by simp))))

theorem follows_typeText (text : String) (commit clear : Bool) :
    Follows w (w.typeText text commit clear) (w.steps (.typeText text commit clear)) := by
  have hcommit : Follows w (if commit then w.device.call (.press "enter") else pure ())
      (if commit then [.call (.press "enter")] else []) := by
    cases commit with
    | true => exact follows_call (by simp)
    | false => exact follows_pure
  have hrest := (follows_enter (w := w) text).bind hcommit
  cases clear with
  | true =>
    have hclear : Follows w w.clear
        [.call (.hotkey [w.platform.modifier, "a"]), .call (.press "backspace")] :=
      (follows_call (by simp)).bind (follows_call (by simp))
    exact hclear.bind hrest
  | false => exact hrest

theorem follows_perform (c : Command) : Follows w (w.perform c) (w.steps c) := by
  cases c with
  | tap points duration => exact follows_tap points duration
  | swipe start finish duration => exact follows_swipe start finish duration
  | scroll direction duration => exact follows_scroll direction duration
  | typeText text commit clear => exact follows_typeText text commit clear
  | wait duration => exact follows_wait duration
  | press button => exact follows_call (by simp)

/-- The calls among the steps are those by which the command is carried out if nothing fails. -/
theorem calls_steps (w : Workplace) (c : Command) :
    (w.steps c).filterMap Step.call? = w.gesture c := by
  cases c with
  | tap points duration =>
    simp [steps, gesture, Step.call?, List.filterMap_cons, List.filterMap_flatMap]
  | swipe | wait | press => rfl
  | scroll direction duration => cases direction <;> rfl
  | typeText text commit clear =>
    rw [steps, gesture, List.append_assoc, List.filterMap_append, List.filterMap_append]
    congr 2
    · cases clear <;> rfl
    · rw [isAscii]
      split <;> rfl
    · cases commit <;> rfl

end Workplace

namespace Desktop

open Workplace

/-- Whatever fails on the machine: a command that is performed goes along its steps, of which
the calls are those of its gesture. It succeeds just if all of them pass, and then it has taken
them all. Otherwise it ends with the first step that fails, which is still recorded; after that
nothing is asked of the machine, and that step and its fault make the failure. -/
theorem performance_cut_at_first_fault (w : Workplace) (c : Command) (log : DeviceLog) :
    let performance := worker.perform (.command c) ⟨some w, log⟩
    (w.steps c).filterMap Step.call? = w.gesture c ∧
    (performance.1.ending.outcome.isSuccess = true ↔ Passes w log (w.steps c)) ∧
    ((Passes w log (w.steps c) ∧
        performance.1.calls = w.gesture c ∧
        performance.2 = ⟨some w, recorded log (w.steps c)⟩ ∧
        performance.1.ending.outcome =
          .success ⟨"Completed: " ++ c.display, some (w.metadata c)⟩) ∨
      ∃ taken s left f, w.steps c = taken ++ s :: left ∧ Passes w log taken ∧
        s.fault? w (recorded log taken) = some f ∧
        performance.1.calls = (taken ++ [s]).filterMap Step.call? ∧
        performance.2 = ⟨some w, recorded log (taken ++ [s])⟩ ∧
        performance.1.ending.outcome = .failure (s.failure f)) := by
  intro performance
  have hcalls := calls_steps w c
  have hperformance : performance = ((performOn w c log).1, ⟨some w, (performOn w c log).2⟩) := rfl
  have hrun : (w.perform c).run.run log = walk w (w.steps c) log := follows_perform c log
  have hmade : ∀ taken, (recorded log taken).calls.drop log.calls.length =
      taken.filterMap Step.call? := by
    intro taken
    rw [calls_recorded, List.drop_left]
  rcases walk_cases w (w.steps c) log with
    ⟨hpasses, hwalk⟩ | ⟨taken, s, left, f, hsteps, hpasses, hfault, hwalk⟩
  · have hends : performance =
        (⟨w.gesture c, .returned (completed w c), false⟩, ⟨some w, recorded log (w.steps c)⟩) := by
      rw [hperformance, performOn, hrun, hwalk]
      simp only [hmade, hcalls]
    rw [hends]
    exact ⟨hcalls, iff_of_true rfl hpasses, .inl ⟨hpasses, rfl, rfl, rfl⟩⟩
  · have hends : performance = (⟨(taken ++ [s]).filterMap Step.call?,
        .raised (reported (s.thrown f)), false⟩, ⟨some w, recorded log (taken ++ [s])⟩) := by
      rw [hperformance, performOn, hrun, hwalk]
      simp only [hmade]
    have hfailure : (Ending.raised (reported (s.thrown f))).outcome = .failure (s.failure f) :=
      s.ofFault_reported f
    have hnot : ¬Passes w log (w.steps c) := by
      rw [hsteps]
      exact not_passes_of_fault hpasses hfault left
    rw [hends]
    refine ⟨hcalls, iff_of_false ?_ hnot,
      .inr ⟨taken, s, left, f, hsteps, hpasses, hfault, rfl, rfl, hfailure⟩⟩
    rw [hfailure]
    simp [Outcome.isSuccess]

end Desktop

end GestureScript
