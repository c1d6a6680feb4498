import GestureScript.Capability.Rig
import GestureScript.Proofs.Pipeline.Desktop

/-!
# Runs that are recorded

A worker that obliges is always ready, ends every command in a success that depends on the
command only, and records what it was given. Then a script runs to its end, whether it would
stop at a failure or not, and the commands are recorded in order. Dry runs are such workers,
also as the rig of a console.
-/

set_option autoImplicit false

namespace GestureScript

structure Worker.Obliges {σ : Type} (w : Worker σ) (fit : σ → Prop) (outcome : Command → Outcome)
    (record : σ → List Command) : Prop where
  steady : w.Steady fit
  outcome_eq : ∀ c st, fit st → w.outcome c st = outcome c
  succeeds : ∀ c, (outcome c).isFailure = false
  records : ∀ c st, fit st → record (w.after c st) = record st ++ [c]

theorem DryRun.obliges :
    worker.Obliges (fun _ => True) outcome DryRun.executed where
  steady := Pipeline.dryRun_steady
  outcome_eq _ _ _ := rfl
  succeeds _ := rfl
  records _ _ _ := rfl

namespace Rig

def IsDryRun (r : Rig) : Prop := ∃ d, r = .dryRun d

theorem dryRun_obliges :
    worker.Obliges IsDryRun DryRun.outcome (fun r => r.executed?.getD []) where
  steady := by
    refine ⟨?_, ?_, ?_, ?_⟩
    · rintro _ ⟨d, rfl⟩
      rfl
    · rintro _ ⟨d, rfl⟩
      exact ⟨d, rfl⟩
    · rintro c _ ⟨d, rfl⟩
      rfl
    · rintro c _ ⟨d, rfl⟩
      exact ⟨_, rfl⟩
  outcome_eq := by
    rintro c _ ⟨d, rfl⟩
    rfl
  succeeds _ := rfl
  records := by
    rintro c _ ⟨d, rfl⟩
    rfl

end Rig

namespace Pipeline

variable {σ : Type} {p : Pipeline σ}

/-- The clock makes the pauses that the settings ask for. -/
def Pauses (p : Pipeline σ) : Prop :=
  p.settings.commandDelay.isPositive = true → p.pauseFault? p.settings.commandDelay = none

theorem Pauses.pause (h : p.Pauses) : p.pause.1 = .ok () ∧ p.pause.2.Pauses := by
  unfold Pipeline.pause
  dsimp only
  split
  next hpositive =>
    rw [h hpositive]
    exact ⟨rfl, h⟩
  · exact ⟨rfl, h⟩

variable {w : Worker σ} {fit : σ → Prop} {outcome : Command → Outcome}
  {record : σ → List Command}

/-- The run of some commands by an obliging worker. -/
structure Obliged (p : Pipeline σ) (i : Nat) (cap : Capability σ Nat) (fit : σ → Prop)
    (outcome : Command → Outcome) (record : σ → List Command) (cs : List Command)
    (answer : Except Fault (List Outcome) × Pipeline σ) : Prop where
  outcomes : answer.1 = .ok (cs.map outcome)
  statuses : answer.2.statuses = p.statuses ++ transcript (cs.map fun c => (c, outcome c))
  serves : ∃ cap', answer.2.Serves i cap' fit ∧ record cap'.state = record cap.state ++ cs

theorem Serves.obliged_nil {i : Nat} {cap : Capability σ Nat} (h : p.Serves i cap fit) :
    Obliged p i cap fit outcome record [] (.ok [], p) where
  outcomes := rfl
  statuses := by simp [transcript]
  serves := ⟨cap, h, by simp⟩

/-- One command before those that are left. -/
theorem Obliged.prepend (hw : w.Obliges fit outcome record) {i : Nat} {cap : Capability σ Nat}
    (h : p.Serves i cap fit) {fails : Status → Bool} (hsink : p.sink = .listening fails)
    {c : Command} {p' : Pipeline σ} {cap' : Capability σ Nat} {cs : List Command}
    {answer : Except Fault (List Outcome) × Pipeline σ}
    (hrest : Obliged p' i cap' fit outcome record cs answer)
    (hstate : cap'.state = w.after c cap.state)
    (hstatuses : p'.statuses = (p.served w cap c).statuses) :
    Obliged p i cap fit outcome record (c :: cs)
      (Pipeline.prepend [w.outcome c cap.state] answer) := by
  obtain ⟨houtcomes, htold, last, hlast, hrecord⟩ := hrest
  have houtcome := hw.outcome_eq c cap.state h.fit
  refine ⟨?_, ?_, last, hlast, ?_⟩
  · rw [Pipeline.prepend, houtcomes, houtcome]
    rfl
  · rw [Pipeline.prepend, htold, hstatuses, statuses_served hsink, houtcome, List.append_assoc]
    rfl
  · rw [hrecord, hstate, hw.records c cap.state h.fit, List.append_assoc]
    rfl

/-- All commands are carried out, in both stop modes. -/
theorem Serves.obliged (hw : w.Obliges fit outcome record) (stopOnFailure : Bool)
    (cs : List Command) {i : Nat} {cap : Capability σ Nat} (h : p.Serves i cap fit)
    {fails : Status → Bool} (hsink : p.sink = .listening fails) (hpauses : p.Pauses) :
    Obliged p i cap fit outcome record cs (runCommands w stopOnFailure cs p) := by
  induction cs generalizing p cap with
  | nil => exact h.obliged_nil
  | cons c cs ih =>
    have hserves := h.served hw.steady c
    have hsucceeds : (stopOnFailure && (w.outcome c cap.state).isFailure) = false := by
      rw [hw.outcome_eq c cap.state h.fit, hw.succeeds, Bool.and_false]
    rw [h.runCommands_cons hw.steady]
    dsimp only
    rw [hsucceeds, Bool.false_or]
    cases cs with
    | nil => exact hserves.obliged_nil.prepend hw h hsink rfl rfl
    | cons next cs =>
      -- The pause in between is made, and the sink hears nothing of it.
      obtain ⟨hmade, hpauses'⟩ := Pauses.pause (p := (p.served w cap c).replace i _) hpauses
      rw [List.isEmpty_cons, if_neg Bool.false_ne_true, goOn_eq hmade]
      exact (ih hserves.pause ((sink_pause _).trans hsink) hpauses').prepend hw h hsink rfl
        (statuses_pause _)

theorem pause_eq_ok_iff : p.pause.1 = .ok () ↔ p.Pauses := by
  refine ⟨fun h hpositive => ?_, fun h => h.pause.1⟩
  unfold Pipeline.pause at h
  dsimp only at h
  rw [if_pos hpositive] at h
  split at h
  · cases h
  next hnone => exact hnone

theorem pause_of_goOn {stopOnFailure : Bool} {cs : List Command} {os : List Outcome}
    (h : (goOn w stopOnFailure cs p).1 = .ok os) : p.pause.1 = .ok () := by
  unfold goOn at h
  generalize p.pause = paused at h
  obtain ⟨made, after⟩ := paused
  cases made with
  | error f => cases h
  | ok _ => rfl

/-- Shutting down tells the sink nothing when no command is in progress. -/
theorem Serves.statuses_shutDown {i : Nat} {cap : Capability σ Nat} (h : p.Serves i cap fit) :
    p.shutDown.statuses = p.statuses := by
  have hdelivered : cap.shutDown.gate.delivered = cap.gate.delivered := by
    unfold Capability.shutDown Capability.letGo
    split
    · rfl
    · rw [Gate.finish_nil (by simp [h.free.running])]
      rfl
  have hadvance : p.advance i cap cap.shutDown = p.replace i cap.shutDown := by
    rw [advance, hdelivered, List.drop_length]
    rfl
  rw [shutDown, h.attached]
  simp only [h.found, hadvance]
  rfl

/-! ## New pipelines -/

/-- A new pipeline with a capability, and with a clock. -/
def withCapability (settings : Settings) (sink : Sink) (pauseFault? : Binary64 → Option Fault)
    (cap : Capability σ Nat) : Pipeline σ where
  settings := settings
  monitor := { capacity := settings.historySize.toNat }
  sink := sink
  pauseFault? := pauseFault?
  fleet := [cap]
  attached := some 0

theorem create?_eq {settings : Settings} (h : 1 ≤ settings.historySize) (sink : Sink) :
    (create? settings sink : Except Fault (Pipeline σ)) = .ok
      { settings := settings
        monitor := { capacity := settings.historySize.toNat }
        sink := sink } := by
  rw [create?, Monitor.create?, if_neg (by omega)]

theorem serves_withCapability (settings : Settings) (sink : Sink)
    (pauseFault? : Binary64 → Option Fault) {st : σ} (hfit : fit st) :
    (withCapability settings sink pauseFault? { state := st }).Serves 0 { state := st } fit :=
  ⟨rfl, rfl, ⟨rfl, rfl, rfl⟩, hfit⟩

end Pipeline

end GestureScript
