import GestureScript.Proofs.Desktop.Reference
import GestureScript.Proofs.Pipeline.Script

/-!
# Scripts on a desktop

On a desktop where nothing fails, a script comes down to the gestures of its commands, one
after the other. A command with a point off the screen adds nothing to them, and is the
last if the run stops at a failure. By induction on the commands: each is performed on the
desktop as the one before left it, and leaves it ready for the next.
-/

set_option autoImplicit false

namespace GestureScript

/-- The commands that a run gets to. -/
def Command.reached (stopOnFailure : Bool) (e : Extent) (cs : List Command) : List Command :=
  if stopOnFailure then cs.take (cs.findIdx (fun c => !decide (c.OnScreen e)) + 1) else cs

theorem Command.reached_nil (stopOnFailure : Bool) (e : Extent) :
    reached stopOnFailure e [] = [] := by
  simp [reached]

theorem Command.reached_cons (stopOnFailure : Bool) (e : Extent) (c : Command)
    (cs : List Command) :
    reached stopOnFailure e (c :: cs) =
      c :: if stopOnFailure && !decide (c.OnScreen e) then [] else reached stopOnFailure e cs := by
  cases stopOnFailure with
  | false => rfl
  | true => by_cases h : c.OnScreen e <;> simp [reached, List.findIdx_cons, h]

/-! ## One command -/

namespace Desktop

variable {w : Workplace} {e : Extent}

theorem polledTwice_eq (h : w.device.FaultFree e) {d : Desktop} (hd : d.At w) :
    worker.polledTwice d = { d with log := { d.log with polls := d.log.polls + 2 } } := by
  have hpolled := isReady_eq h hd
  have hd' : (worker.isReady d).2.At w := by rw [hpolled]; exact hd
  rw [Worker.polledTwice, isReady_eq h hd', hpolled]

/-- The sizes asked for beforehand are not among the calls. -/
theorem attempt_eq (h : w.device.FaultFree e) {d : Desktop} (hd : d.At w) {c : Command}
    (hduration : ∀ s ∈ c.duration?, (Workplace.seconds? s).isSome) :
    (worker.attempt c d).calls = w.reference e c ∧
      (worker.outcome c d).errorKind? = refusal? e c ∧
      (worker.after c d).log.calls = d.log.calls ++ w.reference e c := by
  have hpolled := polledTwice_eq h hd
  have hd' : (worker.polledTwice d).At w := by rw [hpolled]; exact hd
  obtain ⟨ending, polls, hperform, hkind⟩ := perform_eq h hd' hduration
  refine ⟨?_, ?_, ?_⟩
  · rw [Worker.attempt, hperform]
  · rw [Worker.outcome, Worker.attempt, hperform]
    exact hkind
  · rw [Worker.after, hperform, hpolled]

end Desktop

namespace Pipeline

section Calls

variable {σ : Type}

def Event.deviceCall? : Event → Option DeviceCall
  | .called c => some c
  | _ => none

/-- The calls that were made for commands. Pauses between them do not count. -/
def deviceCalls (p : Pipeline σ) : List DeviceCall := p.trace.filterMap Event.deviceCall?

theorem deviceCalls_served (p : Pipeline σ) (w : Worker σ) (cap : Capability σ Nat)
    (c : Command) :
    (p.served w cap c).deviceCalls = p.deviceCalls ++ (w.attempt c cap.state).calls := by
  have hheard : ∀ n s, (p.sink.heard n s).filterMap Event.deviceCall? = [] := by
    intro n s
    cases p.sink <;> rfl
  have hcalls : ∀ cs : List DeviceCall,
      (cs.map Event.called).filterMap Event.deviceCall? = cs := by
    intro cs
    rw [List.filterMap_map]
    exact List.filterMap_some
  simp [deviceCalls, served, hheard, hcalls, Event.deviceCall?]

theorem deviceCalls_pause (p : Pipeline σ) : p.pause.2.deviceCalls = p.deviceCalls := by
  rcases p.pause_cases with ⟨f, h⟩ | h | h <;> simp [h, deviceCalls, Event.deviceCall?]

/-- The clock makes all pauses. -/
def Unhurried (p : Pipeline σ) : Prop := ∀ s, p.pauseFault? s = none

theorem Unhurried.pause {p : Pipeline σ} (h : p.Unhurried) :
    p.pause.1 = .ok () ∧ p.pause.2.Unhurried := by
  unfold Pipeline.pause
  dsimp only
  split
  · rw [h]
    exact ⟨rfl, h⟩
  · exact ⟨rfl, h⟩

theorem goOn_eq {w : Worker σ} {stopOnFailure : Bool} {cs : List Command} {p : Pipeline σ}
    (h : p.pause.1 = .ok ()) :
    goOn w stopOnFailure cs p = runCommands w stopOnFailure cs p.pause.2 := by
  unfold goOn
  generalize p.pause = paused at h
  obtain ⟨made, after⟩ := paused
  cases h
  rfl

end Calls

/-! ## All commands -/

variable {w : Workplace} {e : Extent}

/-- The run of some commands: it comes to its end, the calls are those of the commands that
it got to, and so are the outcomes. -/
structure Enacts (w : Workplace) (e : Extent) (cs : List Command) (p : Pipeline Desktop)
    (d : Desktop) (answer : Except Fault (List Outcome) × Pipeline Desktop) : Prop where
  calls : answer.2.deviceCalls = p.deviceCalls ++ cs.flatMap (w.reference e)
  recorded : answer.2.attachedCapability?.map (·.state.log.calls) =
    some (d.log.calls ++ cs.flatMap (w.reference e))
  outcomes : ∃ os, answer.1 = .ok os ∧ os.map (·.errorKind?) = cs.map (Desktop.refusal? e)

theorem Serves.enacts_nil {p : Pipeline Desktop} {i : Nat} {cap : Capability Desktop Nat}
    (h : p.Serves i cap (Desktop.At w)) : Enacts w e [] p cap.state (.ok [], p) where
  calls := by simp
  recorded := by simp [attachedCapability?, h.attached, h.found]
  outcomes := ⟨[], rfl, rfl⟩

/-- One command before those that are left. -/
theorem Enacts.prepend {cs : List Command} {p' : Pipeline Desktop}
    {answer : Except Fault (List Outcome) × Pipeline Desktop} {c : Command}
    {cap : Capability Desktop Nat}
    (hrest : Enacts w e cs p' (Desktop.worker.after c cap.state) answer)
    (hw : w.device.FaultFree e) {p : Pipeline Desktop} {i : Nat}
    (h : p.Serves i cap (Desktop.At w))
    (hduration : ∀ s ∈ c.duration?, (Workplace.seconds? s).isSome)
    (hcalls : p'.deviceCalls = (p.served Desktop.worker cap c).deviceCalls) :
    Enacts w e (c :: cs) p cap.state
      (Pipeline.prepend [Desktop.worker.outcome c cap.state] answer) := by
  obtain ⟨hmade, hkind, hlog⟩ := Desktop.attempt_eq hw h.fit hduration
  obtain ⟨hdone, hrecorded, os, hos, hkinds⟩ := hrest
  refine ⟨?_, ?_, Desktop.worker.outcome c cap.state :: os, ?_, ?_⟩
  · rw [Pipeline.prepend, hdone, hcalls, deviceCalls_served, hmade, List.flatMap_cons,
      List.append_assoc]
  · rw [Pipeline.prepend, hrecorded, hlog, List.flatMap_cons, List.append_assoc]
  · rw [Pipeline.prepend, hos]
    rfl
  · rw [List.map_cons, List.map_cons, hkind, hkinds]

/-- The commands that a run gets to are enacted, and no others. -/
theorem Serves.enacts (hw : w.device.FaultFree e) (stopOnFailure : Bool) {cs : List Command}
    (hdurations : ∀ c ∈ cs, ∀ s ∈ c.duration?, (Workplace.seconds? s).isSome)
    {p : Pipeline Desktop} (hp : p.Unhurried) {i : Nat} {cap : Capability Desktop Nat}
    (h : p.Serves i cap (Desktop.At w)) :
    Enacts w e (Command.reached stopOnFailure e cs) p cap.state
      (runCommands Desktop.worker stopOnFailure cs p) := by
  induction cs generalizing p cap with
  | nil =>
    rw [Command.reached_nil, runCommands_nil]
    exact h.enacts_nil
  | cons c cs ih =>
    obtain ⟨hduration, hdurations⟩ := List.forall_mem_cons.mp hdurations
    have hserves := h.served (Desktop.steady hw) c
    have hfailure : (Desktop.worker.outcome c cap.state).isFailure = !decide (c.OnScreen e) := by
      rw [Outcome.isFailure_eq, (Desktop.attempt_eq hw h.fit hduration).2.1,
        Desktop.refusal?_isSome]
    have hlast := hserves.enacts_nil (e := e)
    rw [h.runCommands_cons (Desktop.steady hw), Command.reached_cons]
    dsimp only
    rw [hfailure]
    by_cases hstop : (stopOnFailure && !decide (c.OnScreen e)) = true
    · rw [if_pos hstop, if_pos (by rw [hstop]; rfl)]
      exact hlast.prepend hw h hduration rfl
    rw [if_neg hstop]
    cases cs with
    | nil =>
      rw [Command.reached_nil, if_pos (by simp)]
      exact hlast.prepend hw h hduration rfl
    | cons next cs =>
      -- The pause in between adds no call, and the desktop is as the command left it.
      obtain ⟨hmade, hunhurried⟩ :=
        Unhurried.pause (p := (p.served Desktop.worker cap c).replace i _) hp
      rw [if_neg (by simpa using hstop), goOn_eq hmade]
      exact (ih hdurations hunhurried hserves.pause).prepend hw h hduration (deviceCalls_pause _)

/-- A script leads to the gestures of its commands, in order, and to no other call, however
slow the desktop is, as long as no performance outlasts the wait for it. The machine records
the same calls. Every command that the run gets to ends in a success if its points are on the
screen, and otherwise in a failure that says so, unless the size of the screen is too long to
be written. -/
theorem script_enacted {settings : Settings} (hhistory : 1 ≤ settings.historySize)
    (hw : w.device.FaultFree e) {pace : Submission → Desktop → Pace}
    (hpace : ∀ s d, (pace s d).outlasts settings.resultTimeout = false) (stopOnFailure : Bool)
    {script : String} (hdurations : ∀ c ∈ Script.commands settings script, ∀ s ∈ c.duration?,
      (Workplace.seconds? s).isSome) (sink : Sink) :
    let reached := Command.reached stopOnFailure e (Script.commands settings script)
    let calls := reached.flatMap (w.reference e)
    let worker := Desktop.worker.paced settings.resultTimeout pace
    ∃ p os p', create? settings sink = .ok p ∧
      (p.attach (some { state := { workplace := some w } })).runScript worker stopOnFailure
        script = (.ok os, p') ∧
      p'.deviceCalls = calls ∧
      p'.attachedCapability?.map (·.state.log.calls) = some calls ∧
      os.map (·.errorKind?) = reached.map (Desktop.refusal? e) := by
  intro reached calls worker
  have hworker : worker = Desktop.worker := Desktop.worker.paced_eq_self hpace
  obtain ⟨monitor, hmonitor⟩ : ∃ monitor, Monitor.create? settings.historySize = some monitor :=
    ⟨_, if_neg (by omega)⟩
  let fresh : Pipeline Desktop := { settings := settings, monitor := monitor, sink := sink }
  have hserves : (fresh.attach (some { state := { workplace := some w } })).Serves 0
      { state := { workplace := some w } } (Desktop.At w) := ⟨rfl, rfl, ⟨rfl, rfl, rfl⟩, rfl⟩
  obtain ⟨hcalls, hrecorded, os, hos, hkinds⟩ :=
    hserves.enacts hw stopOnFailure hdurations (fun _ => rfl)
  rw [hworker]
  refine ⟨fresh, os, _, ?_, Prod.ext hos rfl, hcalls, hrecorded, hkinds⟩
  rw [create?, hmonitor]

/-- A small screen, and a tap beside it, after which the script goes on. Each performance is
waited for. -/
theorem four_lines_enacted :
    let w : Workplace := ⟨.simulated [.ok [20, 10]] [] true, .default, .controlKey⟩
    let script := "tap 3 4 100\ntap 20 4\ninput hé\nscroll up 5"
    let pace : Submission → Desktop → Pace := fun _ _ => .inTime
    let worker := Desktop.worker.paced Settings.default.resultTimeout pace
    (1 : Int) ≤ Settings.default.historySize ∧ w.device.FaultFree ⟨20, 10⟩ ∧
      (∀ s d, (pace s d).outlasts Settings.default.resultTimeout = false) ∧
      (∀ c ∈ Script.commands .default script, ∀ s ∈ c.duration?,
        (Workplace.seconds? s).isSome) ∧
      ∃ p os p', create? .default .absent = .ok p ∧
        (p.attach (some { state := { workplace := some w } })).runScript worker false script =
          (.ok os, p') ∧
        p'.deviceCalls = [.moveTo 3 4, .mouseDown, .sleep (Workplace.lasting 100), .mouseUp,
          .copy "hé", .sleep Workplace.pasteDelay, .hotkey ["ctrl", "v"],
          .sleep Workplace.pasteDelay, .scroll 5, .sleep (Workplace.lasting 5)] ∧
        os.map (·.errorKind?) = [none, some .invalidCoordinates, none, none] := by
  intro w script pace worker
  have hpace : ∀ s d, (pace s d).outlasts Settings.default.resultTimeout = false :=
    fun _ _ => by decide +kernel
  have hw : w.device.FaultFree ⟨20, 10⟩ := by
    refine ⟨by decide, by decide, ?_, fun _ _ => rfl, rfl⟩
    rintro (_ | n) <;> rfl
  have hcommands : Script.commands .default script = [.tap [⟨3, 4⟩] 100, .tap [⟨20, 4⟩] 100,
      .typeText "hé" false false, .scroll .up 5] := by decide +kernel
  have hdurations : ∀ c ∈ Script.commands .default script, ∀ s ∈ c.duration?,
      (Workplace.seconds? s).isSome := by
    rw [hcommands]
    decide +kernel
  obtain ⟨p, os, p', hcreate, hrun, hcalls, _, hkinds⟩ :=
    script_enacted (by decide) hw hpace false hdurations .absent
  rw [hcommands] at hcalls hkinds
  exact ⟨by decide, hw, hpace, hdurations, p, os, p', hcreate, hrun, hcalls, hkinds⟩

end Pipeline

end GestureScript
