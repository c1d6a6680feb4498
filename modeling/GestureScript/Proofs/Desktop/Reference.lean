import GestureScript.Desktop.Worker
import GestureScript.Proofs.Pipeline.Dispatch

/-!
# What commands ask of a desktop

`gesture` has the calls of a command in order. On a machine where no call fails they are
the calls by which the command is carried out, if all its points are on the screen; if a
point is not, the command is refused before any call is made.
-/

set_option autoImplicit false

namespace GestureScript

namespace Command

/-- The points that have to be on the screen. -/
def targets : Command → List Point
  | .tap points _ => points
  | .swipe start finish _ => [start, finish]
  | .scroll .. | .typeText .. | .wait _ | .press _ => []

def duration? : Command → Option Int
  | .tap _ duration | .swipe _ _ duration | .scroll _ duration | .wait duration => some duration
  | .typeText .. | .press _ => none

def OnScreen (e : Extent) (c : Command) : Prop :=
  ∀ p ∈ c.targets, 0 ≤ p.x ∧ p.x < e.width ∧ 0 ≤ p.y ∧ p.y < e.height

instance (e : Extent) (c : Command) : Decidable (c.OnScreen e) :=
  inferInstanceAs (Decidable (∀ p ∈ c.targets, 0 ≤ p.x ∧ p.x < e.width ∧ 0 ≤ p.y ∧ p.y < e.height))

end Command

/-- A machine with a screen of constant size, on which nothing fails. -/
structure Device.FaultFree (d : Device) (e : Extent) : Prop where
  wide : 0 < e.width
  high : 0 < e.height
  size : ∀ n, d.size n = .ok [e.width, e.height]
  calls : ∀ earlier c, d.fault earlier c = none
  clipboard : d.hasClipboard = true

/-- Why a point outside is refused. -/
def Extent.refusal (e : Extent) (p : Point) : Fault :=
  if e.names p then .refused .invalidCoordinates (e.complaint p) else .integerTooLong

namespace Workplace

/-- A duration in seconds. Of one that is too large nothing is asked. -/
def lasting (duration : Int) : Binary64 := (seconds? duration).getD .nan

/-- The calls by which a command is carried out. -/
def gesture (w : Workplace) : Command → List DeviceCall
  | .tap points duration => points.flatMap fun p =>
    [.moveTo p.x p.y, .mouseDown, .sleep (lasting duration), .mouseUp]
  | .swipe start finish duration =>
    [.moveTo start.x start.y, .dragTo finish.x finish.y (lasting duration)]
  | .scroll .up duration => [.scroll w.settings.scrollAmount, .sleep (lasting duration)]
  | .scroll .down duration => [.scroll (-w.settings.scrollAmount), .sleep (lasting duration)]
  | .scroll .left duration =>
    [.scrollSideways (-w.settings.scrollAmount), .sleep (lasting duration)]
  | .scroll .right duration => [.scrollSideways w.settings.scrollAmount, .sleep (lasting duration)]
  | .typeText text commit clear =>
    (if clear then [.hotkey [w.platform.modifier, "a"], .press "backspace"] else []) ++
      (if text.toList.all (·.toNat < 128) then [.write text w.settings.typingInterval]
        else [.copy text, .sleep pasteDelay, .hotkey [w.platform.modifier, "v"],
          .sleep pasteDelay]) ++
      (if commit then [.press "enter"] else [])
  | .wait duration => [.sleep (lasting duration)]
  | .press button => [.hotkey (w.settings.hotkey button)]

/-- The calls that a command leads to on a screen. -/
def reference (w : Workplace) (e : Extent) (c : Command) : List DeviceCall :=
  if c.OnScreen e then w.gesture c else []

/-! ## Acts and their calls -/

/-- The act comes to its end, and makes these calls on the way. -/
def Makes (a : Act Unit) (cs : List DeviceCall) : Prop :=
  ∀ log : DeviceLog, ∃ polls, a.run.run log = (.ok (), ⟨polls, log.calls ++ cs⟩)

/-- The act breaks off without a call. -/
def Refuses (a : Act Unit) (f : Fault) : Prop :=
  ∀ log : DeviceLog, ∃ polls, a.run.run log = (.error f, ⟨polls, log.calls⟩)

theorem run_bind {α β : Type} (a : Act α) (f : α → Act β) (log : DeviceLog) :
    (a >>= f).run.run log =
      match a.run.run log with
      | (.ok x, after) => (f x).run.run after
      | (.error fault, after) => (.error fault, after) := by
  unfold ExceptT.run StateT.run
  simp only [bind, ExceptT.bind, ExceptT.mk, StateT.bind, ExceptT.bindCont]
  cases a log with
  | mk result after => cases result <;> rfl

theorem run_tryCatch {α : Type} (a : Act α) (handler : Fault → Act α) (log : DeviceLog) :
    (tryCatch a handler).run.run log =
      match a.run.run log with
      | (.ok x, after) => (.ok x, after)
      | (.error fault, after) => (handler fault).run.run after := by
  unfold ExceptT.run StateT.run
  simp only [tryCatch, tryCatchThe, MonadExceptOf.tryCatch, ExceptT.tryCatch, ExceptT.mk, bind,
    StateT.bind]
  cases a log with
  | mk result after => cases result <;> rfl

theorem makes_pure : Makes (pure ()) [] := by
  intro log
  exact ⟨log.polls, by simp; rfl⟩

theorem Makes.bind {a b : Act Unit} {cs ds : List DeviceCall} (ha : Makes a cs)
    (hb : Makes b ds) : Makes (a >>= fun _ => b) (cs ++ ds) := by
  intro log
  obtain ⟨polls, hrun⟩ := ha log
  obtain ⟨polls', hrun'⟩ := hb ⟨polls, log.calls ++ cs⟩
  refine ⟨polls', ?_⟩
  rw [run_bind, hrun, ← List.append_assoc]
  exact hrun'

theorem Refuses.bind {a : Act Unit} {f : Fault} (ha : Refuses a f) (b : Act Unit) :
    Refuses (a >>= fun _ => b) f := by
  intro log
  obtain ⟨polls, hrun⟩ := ha log
  exact ⟨polls, by rw [run_bind, hrun]⟩

variable {w : Workplace} {e : Extent}

theorem makes_call (h : w.device.FaultFree e) (c : DeviceCall) : Makes (w.device.call c) [c] := by
  intro log
  refine ⟨log.polls, ?_⟩
  simp [Device.call, h.calls]
  rfl

theorem makes_forM {α : Type} {f : α → Act Unit} {calls : α → List DeviceCall}
    (h : ∀ x, Makes (f x) (calls x)) (xs : List α) : Makes (xs.forM f) (xs.flatMap calls) := by
  induction xs with
  | nil => exact makes_pure
  | cons x xs ih =>
    rw [List.flatMap_cons]
    exact (h x).bind ih

theorem seconds_eq {duration : Int} (h : (seconds? duration).isSome) :
    seconds duration = pure (lasting duration) := by
  obtain ⟨s, hs⟩ := Option.isSome_iff_exists.mp h
  simp [seconds, lasting, hs]

theorem run_extent (h : w.device.FaultFree e) (log : DeviceLog) :
    w.extent.run.run log = (.ok e, { log with polls := log.polls + 1 }) := by
  simp [extent, Device.pollSize, h.size]
  rfl

/-! ## Points on the screen and off it -/

theorem firstOutside?_eq_none_iff (e : Extent) (points : List Point) :
    e.firstOutside? points = none ↔
      ∀ p ∈ points, 0 ≤ p.x ∧ p.x < e.width ∧ 0 ≤ p.y ∧ p.y < e.height := by
  simp [Extent.firstOutside?_eq_none_iff, Extent.contains_iff]

/-- What the check of some points comes to. -/
def judgement (e : Extent) (points : List Point) : Except Fault Unit :=
  match e.firstOutside? points with
  | none => .ok ()
  | some p => .error (e.refusal p)

theorem run_check (w : Workplace) (points : List Point) (log : DeviceLog) :
    (w.checkPoints points).run.run log =
      match w.extent.run.run log with
      | (.error f, after) => (.error f, after)
      | (.ok e, after) => (judgement e points, after) := by
  rw [checkPoints, run_bind]
  generalize w.extent.run.run log = answer
  obtain ⟨size, after⟩ := answer
  cases size with
  | error f => rfl
  | ok e =>
    dsimp only
    rw [Extent.check, judgement]
    cases e.firstOutside? points with
    | none => rfl
    | some p =>
      dsimp only
      rw [Extent.refusal]
      cases e.names p <;> rfl

theorem makes_checkPoints (h : w.device.FaultFree e) {points : List Point}
    (hpoints : e.firstOutside? points = none) : Makes (w.checkPoints points) [] := by
  intro log
  refine ⟨log.polls + 1, ?_⟩
  rw [run_check, run_extent h, List.append_nil]
  dsimp only
  rw [judgement, hpoints]

theorem refuses_checkPoints (h : w.device.FaultFree e) {points : List Point} {p : Point}
    (hp : e.firstOutside? points = some p) : Refuses (w.checkPoints points) (e.refusal p) := by
  intro log
  refine ⟨log.polls + 1, ?_⟩
  rw [run_check, run_extent h]
  dsimp only
  rw [judgement, hp]

/-! ## Commands that are carried out -/

theorem makes_tap (h : w.device.FaultFree e) {points : List Point} {duration : Int}
    (hpoints : e.firstOutside? points = none) (hduration : (seconds? duration).isSome) :
    Makes (w.tap points duration) (w.gesture (.tap points duration)) := by
  have hpoint : ∀ p : Point, Makes (w.tapAt (lasting duration) p)
      [.moveTo p.x p.y, .mouseDown, .sleep (lasting duration), .mouseUp] := by
    intro p
    exact (makes_call h _).bind ((makes_call h _).bind ((makes_call h _).bind (makes_call h _)))
  rw [tap, seconds_eq hduration]
  simp only [pure_bind]
  exact (makes_checkPoints h hpoints).bind (makes_forM hpoint points)

theorem makes_swipe (h : w.device.FaultFree e) {start finish : Point} {duration : Int}
    (hpoints : e.firstOutside? [start, finish] = none)
    (hduration : (seconds? duration).isSome) :
    Makes (w.swipe start finish duration) (w.gesture (.swipe start finish duration)) := by
  rw [swipe, seconds_eq hduration]
  simp only [pure_bind]
  exact (makes_checkPoints h hpoints).bind ((makes_call h _).bind (makes_call h _))

theorem makes_wait (h : w.device.FaultFree e) {duration : Int}
    (hduration : (seconds? duration).isSome) :
    Makes (w.wait duration) [.sleep (lasting duration)] := by
  rw [wait, seconds_eq hduration]
  simp only [pure_bind]
  exact makes_call h _

theorem makes_scroll (h : w.device.FaultFree e) (direction : Direction) {duration : Int}
    (hduration : (seconds? duration).isSome) :
    Makes (w.scroll direction duration) (w.gesture (.scroll direction duration)) := by
  have hscroll := (makes_call h (wheel w.settings.scrollAmount direction)).bind
    (makes_wait h hduration)
  cases direction <;> exact hscroll

theorem makes_copy (h : w.device.FaultFree e) (text : String) :
    Makes (w.copy text) [.copy text] := by
  intro log
  obtain ⟨polls, hrun⟩ := makes_call h (.copy text) log
  refine ⟨polls, ?_⟩
  rw [copy, if_pos h.clipboard, run_tryCatch, hrun]

theorem makes_enter (h : w.device.FaultFree e) (text : String) : Makes (w.enter text)
    (if text.toList.all (·.toNat < 128) then [.write text w.settings.typingInterval]
      else [.copy text, .sleep pasteDelay, .hotkey [w.platform.modifier, "v"],
        .sleep pasteDelay]) := by
  rw [enter, isAscii]
  by_cases hascii : text.toList.all (·.toNat < 128) = true
  · rw [if_pos hascii, if_pos hascii]
    exact makes_call h _
  · rw [if_neg hascii, if_neg hascii]
    exact (makes_copy h text).bind
      ((makes_call h _).bind ((makes_call h _).bind (makes_call h _)))

theorem makes_typeText (h : w.device.FaultFree e) (text : String) (commit clear : Bool) :
    Makes (w.typeText text commit clear) (w.gesture (.typeText text commit clear)) := by
  have hcommit : Makes (if commit then w.device.call (.press "enter") else pure ())
      (if commit then [.press "enter"] else []) := by
    cases commit with
    | true => exact makes_call h _
    | false => exact makes_pure
  have hrest := (makes_enter h text).bind hcommit
  rw [gesture, List.append_assoc]
  cases clear with
  | true =>
    have hclear : Makes w.clear [.hotkey [w.platform.modifier, "a"], .press "backspace"] :=
      (makes_call h _).bind (makes_call h _)
    exact hclear.bind hrest
  | false => exact hrest

/-- A command whose points are on the screen is carried out by its gesture. -/
theorem makes_perform (h : w.device.FaultFree e) {c : Command} (hscreen : c.OnScreen e)
    (hduration : ∀ d ∈ c.duration?, (seconds? d).isSome) :
    Makes (w.perform c) (w.gesture c) := by
  have hpoints : e.firstOutside? c.targets = none := (firstOutside?_eq_none_iff e _).mpr hscreen
  cases c with
  | tap points duration => exact makes_tap h hpoints (hduration duration rfl)
  | swipe start finish duration => exact makes_swipe h hpoints (hduration duration rfl)
  | scroll direction duration => exact makes_scroll h direction (hduration duration rfl)
  | typeText text commit clear => exact makes_typeText h text commit clear
  | wait duration => exact makes_wait h (hduration duration rfl)
  | press button => exact makes_call h _

/-- Any other command is refused. -/
theorem refuses_perform (h : w.device.FaultFree e) {c : Command} (hscreen : ¬c.OnScreen e) :
    ∃ p, e.firstOutside? c.targets = some p ∧ Refuses (w.perform c) (e.refusal p) := by
  obtain ⟨p, hpoints⟩ := Option.ne_none_iff_exists'.mp
    (mt (firstOutside?_eq_none_iff e c.targets).mp hscreen)
  refine ⟨p, hpoints, ?_⟩
  cases c with
  | tap points duration => exact (refuses_checkPoints h hpoints).bind _
  | swipe start finish duration => exact (refuses_checkPoints h hpoints).bind _
  | scroll | typeText | wait | press => simp [Command.OnScreen, Command.targets] at hscreen

end Workplace

/-! ## The worker -/

namespace Desktop

variable {w : Workplace} {e : Extent}

/-- The desktop of a worker has not been taken away. -/
def At (w : Workplace) (d : Desktop) : Prop := d.workplace = some w

theorem isReady_eq (h : w.device.FaultFree e) {d : Desktop} (hd : d.At w) :
    worker.isReady d = (true, { d with log := { d.log with polls := d.log.polls + 1 } }) := by
  have hpoll : w.device.pollSize.run.run d.log =
      (.ok [e.width, e.height], { d.log with polls := d.log.polls + 1 }) := by
    simp [Device.pollSize, h.size]
    rfl
  have hpositive : Extent.isPositive ⟨e.width, e.height⟩ = true := by
    simp [Extent.isPositive, h.wide, h.high]
  have hready : w.isReady d.log = (true, { d.log with polls := d.log.polls + 1 }) := by
    rw [Workplace.isReady, hpoll]
    simp [hpositive]
  have hworkplace : d.workplace = some w := hd
  simp [worker, isReady, hworkplace, hready]

/-- The kind of error that a command ends with. The complaint about a point may be too long to
be written. -/
def refusal? (e : Extent) (c : Command) : Option ErrorKind :=
  (e.firstOutside? c.targets).map fun p =>
    if e.names p then .invalidCoordinates else .dispatchFailed

theorem refusal?_isSome (e : Extent) (c : Command) :
    (refusal? e c).isSome = !decide (c.OnScreen e) := by
  have hpoints : e.firstOutside? c.targets = none ↔ c.OnScreen e :=
    Workplace.firstOutside?_eq_none_iff e c.targets
  by_cases hscreen : c.OnScreen e
  · simp [refusal?, hpoints.mpr hscreen, hscreen]
  · obtain ⟨p, hp⟩ := Option.ne_none_iff_exists'.mp (mt hpoints.mp hscreen)
    simp [refusal?, hp, hscreen]

/-- The worker makes the calls of the reference, and the machine records them. -/
theorem perform_eq (h : w.device.FaultFree e) {d : Desktop} (hd : d.At w) {c : Command}
    (hduration : ∀ s ∈ c.duration?, (Workplace.seconds? s).isSome) :
    ∃ ending polls, worker.perform (.command c) d =
        (⟨w.reference e c, ending, false⟩,
          { d with log := ⟨polls, d.log.calls ++ w.reference e c⟩ }) ∧
      ending.outcome.errorKind? = refusal? e c := by
  have hworkplace : d.workplace = some w := hd
  by_cases hscreen : c.OnScreen e
  · obtain ⟨polls, hrun⟩ := Workplace.makes_perform h hscreen hduration d.log
    have hpoints := (Workplace.firstOutside?_eq_none_iff e c.targets).mpr hscreen
    refine ⟨.returned (completed w c), polls, ?_, ?_⟩
    · simp [worker, perform, performOn, hworkplace, hrun, Workplace.reference, hscreen]
    · simp [refusal?, hpoints, Ending.outcome, completed, Outcome.errorKind?]
  · obtain ⟨p, hpoints, hrefuses⟩ := Workplace.refuses_perform h hscreen
    obtain ⟨polls, hrun⟩ := hrefuses d.log
    refine ⟨.raised (Workplace.reported (e.refusal p)), polls, ?_, ?_⟩
    · simp [worker, perform, performOn, hworkplace, hrun, Workplace.reference, hscreen]
    · rw [refusal?, hpoints, Option.map_some, Extent.refusal]
      cases e.names p <;> rfl

/-- A machine on which nothing fails is always ready for the next command. -/
theorem steady (h : w.device.FaultFree e) : worker.Steady (Desktop.At w) where
  ready d hd := by rw [isReady_eq h hd]
  polled d hd := by rw [isReady_eq h hd]; exact hd
  ends c d hd := by
    have hworkplace : d.workplace = some w := hd
    simp only [worker, perform, hworkplace]
    rfl
  performed c d hd := by
    have hworkplace : d.workplace = some w := hd
    simp [worker, perform, hworkplace, At]

end Desktop

end GestureScript
