import GestureScript.Proofs.Capability.Answer
import GestureScript.Proofs.Desktop.Reference
import GestureScript.Proofs.Numeral

/-!
# The pointer stays on the screen

Screens change their sizes and calls fail at any moment. A command with points reads the size
once, before its first call, and the points are compared with that one: then the pointer is
taken to points on the screen only, or there is no call at all. `Confines` bounds the calls of
an act, whatever fails on the way, and is composed along the act. Coordinates may have any
number of digits, also more than can be written.
-/

set_option autoImplicit false

namespace GestureScript

namespace DeviceCall

/-- Where a call takes the pointer. -/
def target? : DeviceCall → Option Point
  | .moveTo x y | .dragTo x y _ => some ⟨x, y⟩
  | _ => none

end DeviceCall

/-- Is the command one of the pointer? -/
def Command.isPointed : Command → Bool
  | .tap .. | .swipe .. => true
  | .scroll .. | .typeText .. | .wait _ | .press _ => false

/-! ## Points and sizes -/

namespace Extent

def Holds (e : Extent) (p : Point) : Prop := 0 ≤ p.x ∧ p.x < e.width ∧ 0 ≤ p.y ∧ p.y < e.height

/-- The complaint names the point and the size. -/
theorem complaint_eq (e : Extent) (p : Point) :
    e.complaint p = "Coordinates (" ++ toString p.x ++ ", " ++ toString p.y ++
      ") are outside screen bounds " ++ toString e.width ++ "x" ++ toString e.height := by
  have hcross : String.ofList ('x' :: Numeral.written e.height) = "x" ++ toString e.height := by
    rw [← List.singleton_append, String.ofList_append, Numeral.ofList_written]
  unfold complaint
  simp only [String.ofList_append, String.ofList_toList, Numeral.ofList_written, hcross,
    String.append_assoc]

theorem names_iff (e : Extent) (p : Point) :
    e.names p = true ↔ ∀ n ∈ [p.x, p.y, e.width, e.height], Numeral.IsShort n := by
  rw [names, List.all_eq_true]
  exact forall₂_congr fun n _ => Numeral.isWritable_iff n

theorem firstOutside?_of_first {e : Extent} {before : List Point} {p : Point}
    (hbefore : ∀ q ∈ before, e.Holds q) (hp : ¬e.Holds p) (after : List Point) :
    e.firstOutside? (before ++ p :: after) = some p := by
  refine List.find?_eq_some_iff_append.mpr ⟨?_, before, after, rfl, ?_⟩
  · simpa [← Bool.not_eq_true, contains_iff, Holds] using hp
  · intro q hq
    simpa [contains_iff, Holds] using hbefore q hq

theorem holds_of_judgement {e : Extent} {points : List Point}
    (h : Workplace.judgement e points = .ok ()) {p : Point} (hp : p ∈ points) : e.Holds p := by
  unfold Workplace.judgement at h
  split at h
  next hnone => exact (Workplace.firstOutside?_eq_none_iff e points).mp hnone p hp
  · cases h

end Extent

namespace Workplace

variable {α β : Type} {P : DeviceCall → Prop} {w : Workplace}

/-! ## Acts whose calls are of a kind -/

/-- All calls of the act are of a kind, whatever fails, and it does not ask for the size. -/
def Confines (P : DeviceCall → Prop) (a : Act α) : Prop :=
  ∀ log : DeviceLog, ∃ more, (a.run.run log).2.calls = log.calls ++ more ∧ (∀ c ∈ more, P c) ∧
    (a.run.run log).2.polls = log.polls

theorem confines_pure (x : α) : Confines P (pure x : Act α) := by
  intro log
  exact ⟨[], (List.append_nil _).symm, by simp, rfl⟩

theorem confines_throw (f : Fault) : Confines P (throw f : Act α) := by
  intro log
  exact ⟨[], (List.append_nil _).symm, by simp, rfl⟩

theorem Confines.bind {a : Act α} {b : α → Act β} (ha : Confines P a)
    (hb : ∀ x, Confines P (b x)) : Confines P (a >>= b) := by
  intro log
  obtain ⟨first, hfirst, hP, hpolls⟩ := ha log
  rw [run_bind]
  generalize a.run.run log = answer at hfirst hpolls
  obtain ⟨result, after⟩ := answer
  cases result with
  | error f => exact ⟨first, hfirst, hP, hpolls⟩
  | ok x =>
    obtain ⟨second, hsecond, hP', hpolls'⟩ := hb x after
    refine ⟨first ++ second, ?_, ?_, hpolls'.trans hpolls⟩
    · rw [hsecond, hfirst, List.append_assoc]
    · intro c hc
      exact (List.mem_append.mp hc).elim (hP c) (hP' c)

theorem Confines.tryCatch {a : Act α} {handler : Fault → Act α} (ha : Confines P a)
    (hhandler : ∀ f, Confines P (handler f)) : Confines P (tryCatch a handler) := by
  intro log
  obtain ⟨first, hfirst, hP, hpolls⟩ := ha log
  rw [run_tryCatch]
  generalize a.run.run log = answer at hfirst hpolls
  obtain ⟨result, after⟩ := answer
  cases result with
  | ok x => exact ⟨first, hfirst, hP, hpolls⟩
  | error f =>
    obtain ⟨second, hsecond, hP', hpolls'⟩ := hhandler f after
    refine ⟨first ++ second, ?_, ?_, hpolls'.trans hpolls⟩
    · rw [hsecond, hfirst, List.append_assoc]
    · intro c hc
      exact (List.mem_append.mp hc).elim (hP c) (hP' c)

/-- A call is recorded, and then it fails or not. -/
theorem run_call (d : Device) (c : DeviceCall) (log : DeviceLog) :
    (d.call c).run.run log = (match d.fault log.calls c with
      | some f => .error f
      | none => .ok (), { log with calls := log.calls ++ [c] }) := by
  have hrun : (d.call c).run.run log = (match d.fault log.calls c with
      | some f => throw f
      | none => pure () : Act Unit).run.run { log with calls := log.calls ++ [c] } := rfl
  rw [hrun]
  cases d.fault log.calls c <;> rfl

theorem confines_call {c : DeviceCall} (hc : P c) : Confines P (w.device.call c) := by
  intro log
  rw [run_call]
  exact ⟨[c], rfl, by simpa using hc, rfl⟩

theorem confines_forM {f : α → Act Unit} (xs : List α) (h : ∀ x ∈ xs, Confines P (f x)) :
    Confines P (xs.forM f) := by
  induction xs with
  | nil => exact confines_pure ()
  | cons x xs ih =>
    obtain ⟨hx, hxs⟩ := List.forall_mem_cons.mp h
    exact hx.bind fun _ => ih hxs

theorem confines_seconds (duration : Int) : Confines P (seconds duration) := by
  unfold seconds
  split
  · exact confines_pure _
  · exact confines_throw _

/-! ## The calls of commands -/

/-- The call takes the pointer to a point of the command, if anywhere. -/
def Aims (c : Command) (call : DeviceCall) : Prop := ∀ p, call.target? = some p → p ∈ c.targets

theorem aims_of_none {c : Command} {call : DeviceCall} (h : call.target? = none) :
    Aims c call := by simp [Aims, h]

theorem confines_elsewhere {c : Command} {call : DeviceCall} (h : call.target? = none) :
    Confines (Aims c) (w.device.call call) := confines_call (aims_of_none h)

theorem confines_tapAt {c : Command} {p : Point} (hp : p ∈ c.targets) (hold : Binary64) :
    Confines (Aims c) (w.tapAt hold p) := by
  have hmove : Aims c (.moveTo p.x p.y) := by
    rintro q ⟨⟩
    exact hp
  exact (confines_call hmove).bind fun _ => (confines_elsewhere rfl).bind fun _ =>
    (confines_elsewhere rfl).bind fun _ => confines_elsewhere rfl

theorem confines_wait (c : Command) (duration : Int) : Confines (Aims c) (w.wait duration) :=
  (confines_seconds duration).bind fun _ => confines_elsewhere rfl

theorem confines_scroll (c : Command) (direction : Direction) (duration : Int) :
    Confines (Aims c) (w.scroll direction duration) := by
  have hwheel : (wheel w.settings.scrollAmount direction).target? = none := by
    cases direction <;> rfl
  exact (confines_elsewhere hwheel).bind fun _ => confines_wait c duration

theorem confines_copy (c : Command) (text : String) : Confines (Aims c) (w.copy text) := by
  unfold copy
  split
  · exact (confines_elsewhere rfl).tryCatch fun _ => confines_throw _
  · exact confines_throw _

theorem confines_enter (c : Command) (text : String) : Confines (Aims c) (w.enter text) := by
  unfold enter
  split
  · exact confines_elsewhere rfl
  · exact (confines_copy c text).bind fun _ => (confines_elsewhere rfl).bind fun _ =>
      (confines_elsewhere rfl).bind fun _ => confines_elsewhere rfl

theorem confines_typeText (c : Command) (text : String) (commit clear : Bool) :
    Confines (Aims c) (w.typeText text commit clear) := by
  have hcommit :
      Confines (Aims c) (if commit then w.device.call (.press "enter") else pure ()) := by
    cases commit with
    | true => exact confines_elsewhere rfl
    | false => exact confines_pure ()
  have hrest := (confines_enter (w := w) c text).bind fun _ => hcommit
  cases clear with
  | true =>
    have hclear : Confines (Aims c) w.clear :=
      (confines_elsewhere rfl).bind fun _ => confines_elsewhere rfl
    exact hclear.bind fun _ => hrest
  | false => exact hrest

/-! ## The size that is read -/

/-- The size by the `n`th answer to a request for it. -/
def measured (w : Workplace) (n : Nat) : Except Fault Extent :=
  match w.device.size n with
  | .error f => .error f
  | .ok [width, height] => .ok ⟨width, height⟩
  | .ok size => .error (.sizeOfLength size.length)

/-- What the `n`th answer says of the points. -/
def verdict (w : Workplace) (points : List Point) (n : Nat) : Except Fault Unit :=
  match w.measured n with
  | .error f => .error f
  | .ok e => judgement e points

theorem measured_eq_ok_iff (n : Nat) (e : Extent) :
    w.measured n = .ok e ↔ w.device.size n = .ok [e.width, e.height] := by
  unfold measured
  split
  · simp_all
  · rename_i width height hsize
    cases e
    simp [hsize]
  · rename_i size hpair hsize
    rw [hsize]
    refine ⟨by simp, fun h => ?_⟩
    cases h
    exact absurd rfl (hpair e.width e.height)

theorem run_answer (size : Except Fault (List Int)) (log : DeviceLog) :
    (match size with
      | .error f => throw f
      | .ok size => pure size : Act (List Int)).run.run log = (size, log) := by
  cases size <;> rfl

theorem run_pollSize (d : Device) (log : DeviceLog) :
    d.pollSize.run.run log = (d.size log.polls, { log with polls := log.polls + 1 }) :=
  run_answer (d.size log.polls) { log with polls := log.polls + 1 }

theorem run_checkPoints (w : Workplace) (points : List Point) (log : DeviceLog) :
    (w.checkPoints points).run.run log =
      (w.verdict points log.polls, { log with polls := log.polls + 1 }) := by
  have hextent : w.extent.run.run log =
      (w.measured log.polls, { log with polls := log.polls + 1 }) := by
    rw [extent, run_bind, run_pollSize, measured]
    cases w.device.size log.polls with
    | error f => rfl
    | ok size => rcases size with _ | ⟨width, _ | ⟨height, _ | ⟨more, rest⟩⟩⟩ <;> rfl
  rw [run_check, hextent, verdict]
  cases w.measured log.polls <;> rfl

/-- The first point outside the size that is read stands in the verdict. -/
theorem verdict_of_first {n : Nat} {e : Extent} (hsize : w.device.size n = .ok [e.width, e.height])
    {before : List Point} {p : Point} (hbefore : ∀ q ∈ before, e.Holds q) (hp : ¬e.Holds p)
    (after : List Point) :
    w.verdict (before ++ p :: after) n = .error (e.refusal p) := by
  rw [verdict, (measured_eq_ok_iff n e).mpr hsize]
  dsimp only
  rw [judgement, Extent.firstOutside?_of_first hbefore hp]

theorem measured_of_verdict {points : List Point} {n : Nat} (h : w.verdict points n = .ok ()) :
    ∃ e, w.measured n = .ok e ∧ judgement e points = .ok () := by
  unfold verdict at h
  split at h
  · cases h
  next e hmeasured => exact ⟨e, hmeasured, h⟩

/-! ## Carrying out a command -/

/-- How a command can go: one of the pointer reads the size first and is broken off, or goes on
with its points; the others do not ask for the size. -/
inductive Goes (w : Workplace) (c : Command) (log : DeviceLog) :
    Except Fault Unit × DeviceLog → Prop
  | elsewhere {result more} : c.isPointed = false → (∀ call ∈ more, Aims c call) →
      Goes w c log (result, ⟨log.polls, log.calls ++ more⟩)
  | stopped {f} : c.isPointed = true → w.verdict c.targets log.polls = .error f →
      Goes w c log (.error f, ⟨log.polls + 1, log.calls⟩)
  | aimed {result more} : c.isPointed = true → w.verdict c.targets log.polls = .ok () →
      (∀ call ∈ more, Aims c call) → Goes w c log (result, ⟨log.polls + 1, log.calls ++ more⟩)

theorem goes_elsewhere {c : Command} (hc : c.isPointed = false)
    (h : Confines (Aims c) (w.perform c)) (log : DeviceLog) :
    Goes w c log ((w.perform c).run.run log) := by
  obtain ⟨more, hcalls, haims, hpolls⟩ := h log
  generalize (w.perform c).run.run log = answer at hcalls hpolls
  obtain ⟨result, polls, calls⟩ := answer
  obtain rfl : calls = log.calls ++ more := hcalls
  obtain rfl : polls = log.polls := hpolls
  exact .elsewhere hc haims

theorem goes_checked {c : Command} (hc : c.isPointed = true) {body : Act Unit}
    (hperform : w.perform c = (w.checkPoints c.targets >>= fun _ => body))
    (h : Confines (Aims c) body) (log : DeviceLog) :
    Goes w c log ((w.perform c).run.run log) := by
  rw [hperform, run_bind, run_checkPoints]
  cases hverdict : w.verdict c.targets log.polls with
  | error f => exact .stopped hc hverdict
  | ok _ =>
    obtain ⟨more, hcalls, haims, hpolls⟩ := h ⟨log.polls + 1, log.calls⟩
    dsimp only
    generalize body.run.run ⟨log.polls + 1, log.calls⟩ = answer at hcalls hpolls
    obtain ⟨result, polls, calls⟩ := answer
    obtain rfl : calls = log.calls ++ more := hcalls
    obtain rfl : polls = log.polls + 1 := hpolls
    exact .aimed hc hverdict haims

theorem goes_perform (w : Workplace) (c : Command) (log : DeviceLog) :
    Goes w c log ((w.perform c).run.run log) := by
  cases c with
  | tap points duration =>
    refine goes_checked rfl rfl ((confines_seconds duration).bind fun hold => ?_) log
    exact confines_forM points fun p hp => confines_tapAt hp hold
  | swipe start finish duration =>
    have hmove : Aims (.swipe start finish duration) (.moveTo start.x start.y) := by
      rintro q ⟨⟩
      simp [Command.targets]
    have hdrag : ∀ s, Aims (.swipe start finish duration) (.dragTo finish.x finish.y s) := by
      rintro s q ⟨⟩
      simp [Command.targets]
    exact goes_checked rfl rfl ((confines_call hmove).bind fun _ =>
      (confines_seconds duration).bind fun s => confines_call (hdrag s)) log
  | scroll direction duration => exact goes_elsewhere rfl (confines_scroll _ direction duration) log
  | typeText text commit clear =>
    exact goes_elsewhere rfl (confines_typeText _ text commit clear) log
  | wait duration => exact goes_elsewhere rfl (confines_wait _ duration) log
  | press button => exact goes_elsewhere rfl (confines_elsewhere rfl) log

end Workplace

/-! ## Performances -/

namespace Desktop

/-- A performance, or a call that led to none: the sizes that were read in it, its calls, and what
was reported. -/
structure Episode where
  submission : Submission
  performed : Bool
  sizes : List (Except Fault (List Int))
  calls : List DeviceCall
  outcome : Option Outcome

/-- How a command fails that has this point outside a screen of this size. -/
def offScreen (p : Point) (width height : Int) : Failure :=
  if ∀ n ∈ [p.x, p.y, width, height], Numeral.IsShort n then
    ⟨"Coordinates (" ++ toString p.x ++ ", " ++ toString p.y ++ ") are outside screen bounds " ++
      toString width ++ "x" ++ toString height, none, .invalidCoordinates⟩
  else
    ⟨"Input dispatch failed: Exceeds the limit (4300 digits) for integer string conversion; " ++
      "use sys.set_int_max_str_digits() to increase the limit", some .integerTooLong,
      .dispatchFailed⟩

/-- A command that is not performed makes no call and fails. One with points that is performed
reads the size once. The pointer is taken to points on the screen, by the one size that was read.
If a point is outside, there is no call, and the first such point is reported with that size. A
command with points makes no call without a size. -/
structure Episode.Safe (e : Episode) : Prop where
  idle : e.performed = false → e.calls = [] ∧ ∃ f, e.outcome = some (.failure f)
  measured : ∀ c, e.submission = .command c → c.isPointed = true → e.performed = true →
    ∃ size, e.sizes = [size]
  pointed : ∀ call ∈ e.calls, ∀ p, call.target? = some p → ∃ width height : Int,
    e.sizes = [.ok [width, height]] ∧ 0 ≤ p.x ∧ p.x < width ∧ 0 ≤ p.y ∧ p.y < height
  refused : ∀ c width height before p after, e.submission = .command c →
    e.sizes = [.ok [width, height]] → c.targets = before ++ p :: after →
    (∀ q ∈ before, Extent.Holds ⟨width, height⟩ q) → ¬Extent.Holds ⟨width, height⟩ p →
    e.calls = [] ∧ e.outcome = some (.failure (offScreen p width height))
  unread : ∀ c, e.submission = .command c → c.targets ≠ [] → e.calls ≠ [] →
    ∃ width height, e.sizes = [.ok [width, height]]

/-- The answers to the requests for the size from one state to the other. -/
def sizesRead (before after : Desktop) : List (Except Fault (List Int)) :=
  match before.workplace with
  | none => []
  | some w =>
    (List.range' before.log.polls (after.log.polls - before.log.polls)).map w.device.size

/-- A performance from a state on. Without a device nothing is performed. -/
def episode (s : Submission) (d : Desktop) : Episode :=
  ⟨s, d.workplace.isSome, d.sizesRead (worker.perform s d).2, (worker.perform s d).1.calls,
    some (worker.perform s d).1.ending.outcome⟩

variable {w : Workplace}

theorem Episode.Safe.of_idle {e : Episode}
    (hidle : ∀ c, e.submission = .command c → e.performed = false) (hsizes : e.sizes = [])
    (hcalls : e.calls = []) (hfailure : ∃ f, e.outcome = some (.failure f)) : e.Safe where
  idle _ := ⟨hcalls, hfailure⟩
  measured c hc _ hperformed := by simp [hidle c hc] at hperformed
  pointed := by simp [hcalls]
  refused := by simp [hsizes]
  unread := by simp [hcalls]

theorem targets_of_elsewhere {c : Command} (h : c.isPointed = false) : c.targets = [] := by
  cases c with
  | tap | swipe => cases h
  | scroll | typeText | wait | press => rfl

/-- How a performance ends. -/
def endingOf (w : Workplace) (c : Command) : Except Fault Unit → Ending
  | .ok () => .returned (completed w c)
  | .error f => .raised (Workplace.reported f)

/-- A performance by what the command did, and what the machine recorded of it. -/
theorem episode_eq {d : Desktop} (hd : d.workplace = some w) {c : Command}
    {result : Except Fault Unit} (polls : Nat) (more : List DeviceCall)
    (hrun : (w.perform c).run.run d.log = (result, ⟨d.log.polls + polls, d.log.calls ++ more⟩)) :
    (worker.perform (.command c) d).2 =
        { d with log := ⟨d.log.polls + polls, d.log.calls ++ more⟩ } ∧
      episode (.command c) d =
        ⟨.command c, true, (List.range' d.log.polls polls).map w.device.size, more,
          some (endingOf w c result).outcome⟩ := by
  have hperform : worker.perform (.command c) d = (⟨more, endingOf w c result, false⟩,
      { d with log := ⟨d.log.polls + polls, d.log.calls ++ more⟩ }) := by
    simp only [worker, perform, hd, performOn, hrun, List.drop_left]
    cases result <;> rfl
  refine ⟨by rw [hperform], ?_⟩
  simp [episode, hperform, sizesRead, hd]

theorem outcome_refusal (e : Extent) (p : Point) :
    Outcome.ofFault (Workplace.reported (e.refusal p)) =
      .failure (offScreen p e.width e.height) := by
  have hnames := e.names_iff p
  by_cases hshort : ∀ n ∈ [p.x, p.y, e.width, e.height], Numeral.IsShort n
  · rw [Extent.refusal, if_pos (hnames.mpr hshort), offScreen, if_pos hshort, e.complaint_eq]
    rfl
  · rw [Extent.refusal, if_neg (mt hnames.mp hshort), offScreen, if_neg hshort]
    rfl

/-- What a performance leaves behind. -/
structure Leaves (s : Submission) (d : Desktop) : Prop where
  workplace : (worker.perform s d).2.workplace = d.workplace
  calls : (worker.perform s d).2.log.calls = d.log.calls ++ (episode s d).calls
  safe : (episode s d).Safe

theorem leaves_command {d : Desktop} (hd : d.workplace = some w) (c : Command) :
    Leaves (.command c) d := by
  have hgoes := w.goes_perform c d.log
  generalize hrun : (w.perform c).run.run d.log = answer at hgoes
  cases hgoes with
  | elsewhere hc haims =>
    obtain ⟨hafter, hepisode⟩ := episode_eq hd 0 _ hrun
    have htargets := targets_of_elsewhere hc
    refine ⟨by rw [hafter], by rw [hafter, hepisode], ?_⟩
    rw [hepisode]
    constructor
    case idle => exact fun hidle => absurd hidle (by simp)
    case measured =>
      rintro c' ⟨⟩ hpointed
      exact absurd hpointed (by simp [hc])
    case pointed =>
      intro call hcall p hp
      simpa [htargets] using haims call hcall p hp
    case refused =>
      intro c' width height before p after hsubmission hsizes
      cases hsizes
    case unread =>
      rintro c' ⟨⟩ hne
      exact absurd htargets hne
  | @stopped f hc hverdict =>
    obtain ⟨hafter, hepisode⟩ := episode_eq hd 1 [] (by rw [hrun, List.append_nil])
    refine ⟨by rw [hafter], by rw [hafter, hepisode], ?_⟩
    rw [hepisode]
    constructor
    case idle => exact fun hidle => absurd hidle (by simp)
    case measured => exact fun _ _ _ _ => ⟨_, rfl⟩
    case pointed => simp
    case unread => simp
    case refused =>
      rintro c' width height before p after ⟨⟩ hsizes htargets hbefore hp
      obtain hsize : w.device.size d.log.polls = .ok [width, height] := by simpa using hsizes
      rw [htargets, Workplace.verdict_of_first (e := ⟨width, height⟩) hsize hbefore hp] at hverdict
      cases hverdict
      exact ⟨rfl, congrArg some (outcome_refusal _ p)⟩
  | aimed hc hverdict haims =>
    obtain ⟨hafter, hepisode⟩ := episode_eq hd 1 _ hrun
    obtain ⟨e, hmeasured, hjudgement⟩ := Workplace.measured_of_verdict hverdict
    have hsize := (Workplace.measured_eq_ok_iff _ e).mp hmeasured
    refine ⟨by rw [hafter], by rw [hafter, hepisode], ?_⟩
    rw [hepisode]
    constructor
    case idle => exact fun hidle => absurd hidle (by simp)
    case measured => exact fun _ _ _ _ => ⟨_, rfl⟩
    case pointed =>
      intro call hcall p hp
      have hinside := Extent.holds_of_judgement hjudgement (haims call hcall p hp)
      exact ⟨e.width, e.height, by simp [hsize], hinside⟩
    case unread => exact fun _ _ _ _ => ⟨e.width, e.height, by simp [hsize]⟩
    case refused =>
      rintro c' width height before p after ⟨⟩ hsizes htargets hbefore hp
      obtain hsize' : w.device.size d.log.polls = .ok [width, height] := by simpa using hsizes
      rw [htargets, Workplace.verdict_of_first (e := ⟨width, height⟩) hsize' hbefore hp] at hverdict
      cases hverdict

theorem leaves (s : Submission) (d : Desktop) : Leaves s d := by
  cases hd : d.workplace with
  | none =>
    have hperform : worker.perform s d = (⟨[], .raised noDevice, false⟩, d) := by
      simp [worker, perform, hd]
    refine ⟨by rw [hperform], by simp [episode, hperform], .of_idle ?_ ?_ ?_ ?_⟩
    · simp [episode, hd]
    · simp [episode, sizesRead, hd]
    · simp [episode, hperform]
    · rw [episode, hperform]
      exact ⟨_, rfl⟩
  | some w =>
    cases s with
    | command c => exact leaves_command hd c
    | other typeName =>
      have hperform : worker.perform (.other typeName) d =
          (⟨[], .raised (.refused .invalidState ("Unsupported command: " ++ typeName)), false⟩,
            d) := by
        simp [worker, perform, hd]
      refine ⟨by rw [hperform], by simp [episode, hperform], .of_idle ?_ ?_ ?_ ?_⟩
      · simp [episode]
      · simp [episode, hperform, sizesRead, hd]
      · simp [episode, hperform]
      · rw [episode, hperform]
        exact ⟨_, rfl⟩

/-! ## Runs -/

/-- What a desktop worker and the capability that it is behind can be asked. -/
inductive Use (κ : Type) where
  | poll
  | perform (s : Submission)
  | submit (s : Submission) (callback : Option (Gate.Callback κ))
  | letGo
  | shutDown

/-- A capability, and the performances so far. -/
structure Watched (κ : Type) where
  capability : Capability Desktop κ
  episodes : List Episode := []

variable {κ : Type}

/-- Is a command performed that is handed over now? -/
def accepts (cap : Capability Desktop κ) : Bool :=
  (cap.poll worker).1 && !cap.gate.locked && !cap.gate.stopped

/-- The performance that a call led to, from the moment on at which the worker is ready. A call
that is refused leads to none. -/
def answerOf (s : Submission) (callback : Option (Gate.Callback κ))
    (cap : Capability Desktop κ) : Episode :=
  let (calls, after) := cap.submit worker s callback
  ⟨s, accepts cap, (cap.poll worker).2.state.sizesRead after.state, calls, after.lastOutcome?⟩

def Watched.use (r : Watched κ) : Use κ → Watched κ
  | .poll => { r with capability := (r.capability.poll worker).2 }
  | .perform s =>
    { capability := { r.capability with state := (worker.perform s r.capability.state).2 }
      episodes := r.episodes ++ [episode s r.capability.state] }
  | .submit s callback =>
    match r.capability.submit? worker s callback with
    | .error _ => r
    | .ok (_, capability) =>
      { capability := capability, episodes := r.episodes ++ [answerOf s callback r.capability] }
  | .letGo => { r with capability := r.capability.letGo }
  | .shutDown => { r with capability := r.capability.shutDown }

def Watched.run (r : Watched κ) (uses : List (Use κ)) : Watched κ := uses.foldl use r

/-- All calls on the machine are those of safe performances. -/
structure Watched.Sound (r : Watched κ) : Prop where
  gate : r.capability.gate.Reachable
  calls : r.capability.state.log.calls = r.episodes.flatMap (·.calls)
  safe : ∀ e ∈ r.episodes, e.Safe

theorem isReady_calls (d : Desktop) : (worker.isReady d).2.log.calls = d.log.calls := by
  cases hd : d.workplace with
  | none => simp [worker, isReady, hd]
  | some w =>
    have hready : (w.isReady d.log).2.calls = d.log.calls := by
      rw [Workplace.isReady, Workplace.run_pollSize]
      cases w.device.size d.log.polls with
      | error f => rfl
      | ok size => rcases size with _ | ⟨width, _ | ⟨height, _ | ⟨more, rest⟩⟩⟩ <;> rfl
    simp [worker, isReady, hd, hready]

/-- No performance is held. -/
theorem perform_held (s : Submission) (d : Desktop) : (worker.perform s d).1.held = false := by
  cases hd : d.workplace with
  | none => simp [worker, perform, hd]
  | some w =>
    cases s with
    | command c => simp only [worker, perform, hd, performOn]; rfl
    | other typeName => simp [worker, perform, hd]

theorem sizesRead_self (d : Desktop) : d.sizesRead d = [] := by
  cases hd : d.workplace <;> simp [sizesRead, hd]

theorem not_accepts_of_refused {cap : Capability Desktop κ} {s : Submission} {o : Outcome}
    (h : Gate.Refused cap.gate s (cap.poll worker).1 o) {c : Command} (hs : s = .command c) :
    accepts cap = false := by
  subst hs
  rw [accepts]
  generalize (cap.poll worker).1 = ready at h
  cases h with
  | notReady => rfl
  | busy hlock => simp [hlock]
  | shutDown _ hstop => simp [hstop]

/-- Only with a device is the worker ready. -/
theorem isSome_workplace_of_ready {d : Desktop} (h : (worker.isReady d).1 = true) :
    (worker.isReady d).2.workplace.isSome = true := by
  cases hd : d.workplace with
  | none => simp [worker, isReady, hd] at h
  | some w => simp [worker, isReady, hd]

/-- A call that is accepted leads to a performance, and is answered by what that reported. -/
theorem answerOf_cases {cap : Capability Desktop κ} (h : cap.gate.Reachable) (s : Submission)
    (callback : Option (Gate.Callback κ)) :
    let ready := (worker.isReady cap.state).2
    ((cap.submit worker s callback).2.state = ready ∧ (answerOf s callback cap).Safe ∧
      (answerOf s callback cap).calls = []) ∨
    ((cap.submit worker s callback).2.state = (worker.perform s ready).2 ∧
      answerOf s callback cap = episode s ready) := by
  rcases Capability.submit_cases worker s callback cap with
    ⟨o, hrefused, hsubmit⟩ | ⟨c, rfl, hready, hlock, hstop, hsubmit⟩
  · obtain ⟨f, rfl⟩ := hrefused.exists_failure
    refine .inl ⟨by rw [hsubmit], .of_idle ?_ ?_ ?_ ⟨f, ?_⟩, ?_⟩
    · exact fun c hs => not_accepts_of_refused hrefused hs
    · rw [answerOf, hsubmit]
      exact sizesRead_self _
    · rw [answerOf, hsubmit]
    · rw [answerOf, hsubmit]
      simp [Capability.lastOutcome?, Gate.calls_reject, Gate.Call.answered, Gate.Call.resolve]
    · rw [answerOf, hsubmit]
  · have hheld := perform_held (.command c) (worker.isReady cap.state).2
    have hmakes := Gate.makes_start_finish (g := { cap.gate with locked := true })
      (h.running_of_free hlock) c callback
      (worker.perform (.command c) (worker.isReady cap.state).2).1.ending
    rw [Capability.begin] at hsubmit
    simp only [hheld, Bool.false_eq_true, if_false] at hsubmit
    refine .inr ⟨by rw [hsubmit], ?_⟩
    have hlast : (cap.submit worker (.command c) callback).2.lastOutcome? =
        some (worker.perform (.command c) (worker.isReady cap.state).2).1.ending.outcome := by
      rw [hsubmit]
      simp only [Capability.lastOutcome?, hmakes.calls, List.getLast?_concat]
      rfl
    have haccepts : accepts cap = (worker.isReady cap.state).2.workplace.isSome := by
      have hpoll : (cap.poll worker).1 = true := hready
      rw [isSome_workplace_of_ready hready, accepts, hpoll, hlock, hstop]
      rfl
    rw [answerOf, haccepts]
    simp only [hlast]
    rw [hsubmit]
    rfl

theorem Watched.Sound.use {r : Watched κ} (h : r.Sound) (u : Use κ) : (r.use u).Sound := by
  cases u with
  | poll => exact ⟨h.gate, (isReady_calls _).trans h.calls, h.safe⟩
  | perform s =>
    have hleaves := leaves s r.capability.state
    refine ⟨h.gate, ?_, ?_⟩
    · simp [Watched.use, hleaves.calls, h.calls]
    · exact List.forall_mem_append.mpr ⟨h.safe, by simpa using hleaves.safe⟩
  | submit s callback =>
    by_cases hdisplayable : s.isDisplayable = true
    · have huse : r.use (.submit s callback) =
          { capability := (r.capability.submit worker s callback).2
            episodes := r.episodes ++ [answerOf s callback r.capability] } := by
        rw [Watched.use, Capability.submit?, if_pos hdisplayable]
      rw [huse]
      refine ⟨h.gate.trans (Capability.runsTo_submit worker s callback r.capability), ?_, ?_⟩
      all_goals
        rcases answerOf_cases h.gate s callback with ⟨hstate, hsafe, hcalls⟩ | ⟨hstate, hanswer⟩
      · simp [hstate, hcalls, isReady_calls, h.calls]
      · simp [hstate, hanswer, (leaves s _).calls, isReady_calls, h.calls]
      · exact List.forall_mem_append.mpr ⟨h.safe, by simpa using hsafe⟩
      · refine List.forall_mem_append.mpr ⟨h.safe, ?_⟩
        simpa [hanswer] using (leaves s _).safe
    · have huse : r.use (.submit s callback) = r := by
        rw [Watched.use, Capability.submit?, if_neg hdisplayable]
      rw [huse]
      exact h
  | letGo =>
    refine ⟨h.gate.trans (Capability.runsTo_letGo r.capability), ?_, h.safe⟩
    have hstate : r.capability.letGo.state = r.capability.state := by
      unfold Capability.letGo
      split <;> rfl
    exact (congrArg (·.log.calls) hstate).trans h.calls
  | shutDown =>
    refine ⟨h.gate.trans (Capability.runsTo_shutDown r.capability), ?_, h.safe⟩
    have hstate : r.capability.shutDown.state = r.capability.state := by
      unfold Capability.shutDown Capability.letGo
      split <;> rfl
    exact (congrArg (·.log.calls) hstate).trans h.calls

theorem Watched.Sound.run {r : Watched κ} (h : r.Sound) (uses : List (Use κ)) :
    (r.run uses).Sound := by
  induction uses generalizing r with
  | nil => exact h
  | cons u uses ih => exact ih (h.use u)

/-- Whatever the screen and the calls do: all calls are those of performances, of which each reads
the size once if its command has points. There the pointer stays on the screen that was read, or
does not move at all. -/
theorem pointer_stays_on_screen (workplace : Option Workplace) (uses : List (Use κ)) :
    let r := Watched.run ⟨{ state := { workplace := workplace } }, []⟩ uses
    r.capability.state.log.calls = r.episodes.flatMap (·.calls) ∧ ∀ e ∈ r.episodes, e.Safe := by
  have hnew : Watched.Sound
      (⟨{ state := { workplace := workplace } }, []⟩ : Watched κ) :=
    ⟨.refl _, rfl, by simp⟩
  exact ⟨(hnew.run uses).calls, (hnew.run uses).safe⟩

/-- A point outside is not reported if the worker is not ready, as on a screen without pixels, or
if the point has too many digits to be written. -/
theorem points_outside_unnamed :
    let square (size : Int) : Workplace :=
      ⟨.simulated [.ok [size, size]] [] true, .default, .controlKey⟩
    let kinds (size : Int) (u : Use Unit) : List (Option ErrorKind) :=
      (Watched.run ⟨{ state := { workplace := some (square size) } }, []⟩ [u]).episodes.map
        fun e => e.outcome.bind Outcome.errorKind?
    let near : Command := .tap [⟨5, 5⟩] 100
    let far : Command := .tap [⟨10 ^ 4300, 5⟩] 100
    kinds 0 (.submit (.command near) none) = [some .capabilityUnavailable] ∧
      kinds 9 (.perform (.command far)) = [some .dispatchFailed] ∧
      ¬∀ (size : Int) (c : Command) (u : Use Unit),
        u = .submit (.command c) none ∨ u = .perform (.command c) →
        (∃ p ∈ c.targets, ¬Extent.Holds ⟨size, size⟩ p) →
          kinds size u = [some .invalidCoordinates] := by
  intro square kinds near far
  have hnear : kinds 0 (.submit (.command near) none) = [some .capabilityUnavailable] := by
    decide +kernel
  have hfar : kinds 9 (.perform (.command far)) = [some .dispatchFailed] := by
    decide +kernel
  refine ⟨hnear, hfar, fun h => ?_⟩
  have hnamed := h 0 near _ (.inl rfl) ⟨⟨5, 5⟩, .head _, by simp [Extent.Holds]⟩
  rw [hnear] at hnamed
  cases hnamed

end Desktop

end GestureScript
