import GestureScript.Monitor.Basic
import Mathlib.Data.List.DropRight

/-!
# The log of a monitor

A monitor keeps four fields up to date. `Reflects` says what they are as functions of
the log of everything that was sighted since the monitor was last reset; it holds of a
new monitor, and every sighting keeps it.
-/

set_option autoImplicit false

namespace GestureScript

/-- Something that a monitor takes note of. -/
inductive Sighting where
  | foreground (now : Int) (package : Package) (named : package.isEmpty = false)
  | snapshot (s : Snapshot)
  | reset

namespace Sighting

def isReset : Sighting → Bool
  | .reset => true
  | _ => false

def snapshot? : Sighting → Option Snapshot
  | .snapshot s => some s
  | _ => none

def package? : Sighting → Option Package
  | .foreground _ p _ => some p
  | _ => none

end Sighting

/-- What was sighted since the last reset. -/
def sinceReset (log : List Sighting) : List Sighting := log.rtakeWhile (!·.isReset)

def snapshots (log : List Sighting) : List Snapshot := log.filterMap Sighting.snapshot?

/-- The applications that were in the foreground, in order and with repetitions. -/
def packages (log : List Sighting) : List Package := log.filterMap Sighting.package?

/-- The last package, with the latest one before it that is different. -/
def lastChange (ps : List Package) : Option (Option Package × Package) :=
  ps.getLast?.map fun p => (ps.reverse.find? (· ≠ p), p)

theorem sinceReset_append_reset (log : List Sighting) : sinceReset (log ++ [.reset]) = [] :=
  List.rtakeWhile_concat_neg _ _ _ (by simp [Sighting.isReset])

theorem sinceReset_append {s : Sighting} (h : s.isReset = false) (log : List Sighting) :
    sinceReset (log ++ [s]) = sinceReset log ++ [s] :=
  List.rtakeWhile_concat_pos _ _ _ (by simp [h])

/-- The same package once more changes nothing. -/
theorem lastChange_append_self {ps : List Package} {p : Package} (h : ps.getLast? = some p) :
    lastChange (ps ++ [p]) = lastChange ps := by
  simp [lastChange, h]

theorem lastChange_append_ne {ps : List Package} {p : Package} (h : ps.getLast? ≠ some p) :
    lastChange (ps ++ [p]) = some (ps.getLast?, p) := by
  have hprevious : ps.reverse.find? (· ≠ p) = ps.getLast? := by
    cases hps : ps.reverse with
    | nil =>
      rw [List.reverse_eq_nil_iff.mp hps]
      rfl
    | cons q qs =>
      have hlast : ps.getLast? = some q := by rw [← List.head?_reverse, hps, List.head?_cons]
      have hne : q ≠ p := by simpa [hlast] using h
      rw [hlast, List.find?_cons_of_pos (by simpa using hne)]
  simpa [lastChange] using hprevious

namespace Monitor

theorem lastItems_eq_rtake {α : Type} (n : Nat) (xs : List α) : lastItems n xs = xs.rtake n := rfl

/-- What was left out before stays left out. -/
theorem rtake_rtake_append {α : Type} (n : Nat) (xs : List α) (x : α) :
    (xs.rtake n ++ [x]).rtake n = (xs ++ [x]).rtake n := by
  cases n with
  | zero => simp
  | succ n =>
    rw [List.rtake_concat_succ, List.rtake_concat_succ]
    simp only [List.rtake_eq_reverse_take_reverse, List.reverse_reverse, List.take_take]
    simp

/-- Take note of what was sighted. -/
def see (m : Monitor) : Sighting → Monitor
  | .foreground now p _ => (m.seeForeground (.ok now) (some p)).1
  | .snapshot s => m.seeSnapshot (some s)
  | .reset => m.reset

def replay (m : Monitor) (log : List Sighting) : Monitor := log.foldl see m

@[simp] theorem replay_nil (m : Monitor) : m.replay [] = m := rfl

@[simp] theorem replay_cons (m : Monitor) (s : Sighting) (log : List Sighting) :
    m.replay (s :: log) = (m.see s).replay log := rfl

theorem replay_append (m : Monitor) (first second : List Sighting) :
    m.replay (first ++ second) = (m.replay first).replay second := by simp [replay]

theorem capacity_see (m : Monitor) (s : Sighting) : (m.see s).capacity = m.capacity := by
  cases s with
  | foreground now p named =>
    simp only [see, seeForeground]
    split <;> rfl
  | snapshot s => rfl
  | reset => rfl

theorem capacity_replay (m : Monitor) (log : List Sighting) :
    (m.replay log).capacity = m.capacity := by
  induction log generalizing m with
  | nil => rfl
  | cons s log ih => rw [replay_cons, ih, capacity_see]

/-- A monitor that is only reset stays new. -/
theorem replay_resets {n : Nat} {log : List Sighting} (h : ∀ s ∈ log, s = .reset) :
    ({ capacity := n } : Monitor).replay log = { capacity := n } := by
  induction log with
  | nil => rfl
  | cons s log ih =>
    obtain ⟨rfl, hrest⟩ := List.forall_mem_cons.mp h
    exact ih hrest

/-! ## Seeing the foreground -/

theorem seeForeground_same {m : Monitor} {p : Package} (h : m.foreground = some p)
    (now : ClockReading) : m.seeForeground now (some p) = (m, none) := by
  cases now <;> simp [seeForeground, h]

/-- The transition to a package. -/
def transitionTo (m : Monitor) (p : Package) (now : Int) : Transition :=
  ⟨m.foreground.map Package.name, p.name, now⟩

theorem seeForeground_other {m : Monitor} {p : Package} (named : p.isEmpty = false)
    (h : m.foreground ≠ some p) (now : Int) :
    m.seeForeground (.ok now) (some p) =
      ({ m with foreground := some p, lastTransition := some (m.transitionTo p now) },
        some (m.transitionTo p now)) := by
  simp [seeForeground, named, h, transitionTo]

theorem seeForeground_of_isEmpty {p : Package} (h : p.isEmpty = true) (m : Monitor)
    (now : ClockReading) : m.seeForeground now (some p) = (m, none) := by
  cases now <;> simp [seeForeground, h]

/-- Without a transition nothing changes. -/
theorem seeForeground_fst_of_snd_eq_none (m : Monitor) (now : ClockReading)
    (package : Option Package) (h : (m.seeForeground now package).2 = none) :
    (m.seeForeground now package).1 = m := by
  revert h
  cases now with
  | error f => simp
  | ok now =>
    cases package with
    | none => simp
    | some p => unfold seeForeground; dsimp only; split <;> simp

/-! ## The fields as functions of the log -/

structure Reflects (m : Monitor) (log : List Sighting) : Prop where
  snapshot : m.snapshot = (snapshots log).getLast?
  history : m.history = (snapshots log).rtake m.capacity
  foreground : m.foreground = (packages log).getLast?
  transition : m.lastTransition.map (fun t => (t.previous, t.current)) =
    (lastChange (packages log)).map fun (q, p) => (q.map Package.name, p.name)

theorem reflects_new (n : Nat) : Reflects { capacity := n } [] where
  snapshot := rfl
  history := by simp [snapshots]
  foreground := rfl
  transition := rfl

theorem Reflects.seeSnapshot {m : Monitor} {log : List Sighting} (h : m.Reflects log)
    (s : Snapshot) : (m.seeSnapshot (some s)).Reflects (log ++ [.snapshot s]) := by
  have hsnapshots : snapshots (log ++ [.snapshot s]) = snapshots log ++ [s] := by
    simp [snapshots, Sighting.snapshot?]
  have hpackages : packages (log ++ [.snapshot s]) = packages log := by
    simp [packages, Sighting.package?]
  constructor
  case snapshot => simp [Monitor.seeSnapshot, hsnapshots]
  case history =>
    calc lastItems m.capacity (m.history ++ [s])
        = ((snapshots log).rtake m.capacity ++ [s]).rtake m.capacity := by
          rw [lastItems_eq_rtake, h.history]
      _ = (snapshots (log ++ [.snapshot s])).rtake m.capacity := by
          rw [rtake_rtake_append, hsnapshots]
  case foreground => rw [hpackages]; exact h.foreground
  case transition => rw [hpackages]; exact h.transition

theorem Reflects.seeForeground {m : Monitor} {log : List Sighting} (h : m.Reflects log)
    (now : Int) {p : Package} (named : p.isEmpty = false) :
    (m.seeForeground (.ok now) (some p)).1.Reflects (log ++ [.foreground now p named]) := by
  have hsnapshots : snapshots (log ++ [.foreground now p named]) = snapshots log := by
    simp [snapshots, Sighting.snapshot?]
  have hpackages : packages (log ++ [.foreground now p named]) = packages log ++ [p] := by
    simp [packages, Sighting.package?]
  by_cases hsame : m.foreground = some p
  · have hlast : (packages log).getLast? = some p := h.foreground.symm.trans hsame
    rw [seeForeground_same hsame]
    constructor
    case snapshot => rw [hsnapshots]; exact h.snapshot
    case history => rw [hsnapshots]; exact h.history
    case foreground => simpa [hpackages] using hsame
    case transition => rw [hpackages, lastChange_append_self hlast]; exact h.transition
  · have hlast : (packages log).getLast? ≠ some p := h.foreground ▸ hsame
    rw [seeForeground_other named hsame]
    constructor
    case snapshot => rw [hsnapshots]; exact h.snapshot
    case history => rw [hsnapshots]; exact h.history
    case foreground => simp [hpackages]
    case transition => rw [hpackages, lastChange_append_ne hlast, ← h.foreground]; rfl

theorem Reflects.see {m : Monitor} {log : List Sighting} (h : m.Reflects (sinceReset log))
    (s : Sighting) : (m.see s).Reflects (sinceReset (log ++ [s])) := by
  cases s with
  | foreground now p named =>
    rw [sinceReset_append rfl]
    exact h.seeForeground now named
  | snapshot s =>
    rw [sinceReset_append rfl]
    exact h.seeSnapshot s
  | reset =>
    rw [sinceReset_append_reset]
    exact reflects_new m.capacity

/-- A monitor that was new before the log reflects what the log holds since the last reset. -/
theorem reflects_replay (n : Nat) (log : List Sighting) :
    (replay { capacity := n } log).Reflects (sinceReset log) := by
  induction log using List.reverseRecOn with
  | nil => exact reflects_new n
  | append_singleton log s ih =>
    -- by the end of the log, as that is where a reset cuts it off
    rw [replay_append]
    exact ih.see s

theorem Reflects.lastTransition_eq_none_iff {m : Monitor} {log : List Sighting}
    (h : m.Reflects log) : m.lastTransition = none ↔ m.foreground = none := by
  rw [← Option.map_eq_none_iff, h.transition, h.foreground, Option.map_eq_none_iff, lastChange,
    Option.map_eq_none_iff]

theorem Reflects.of_lastTransition {m : Monitor} {log : List Sighting} (h : m.Reflects log)
    {t : Transition} (ht : m.lastTransition = some t) :
    ∃ p, m.foreground = some p ∧ t.current = p.name ∧
      t.previous = ((packages log).reverse.find? (· ≠ p)).map Package.name := by
  have hchange := h.transition
  rw [ht, Option.map_some, lastChange, Option.map_map] at hchange
  obtain ⟨p, hp, heq⟩ := Option.map_eq_some_iff.mp hchange.symm
  obtain ⟨hprevious, hcurrent⟩ := Prod.mk.injEq .. ▸ heq
  exact ⟨p, h.foreground.trans hp, hcurrent.symm, hprevious.symm⟩

/-- With room for one snapshot the current one ends the history. -/
theorem Reflects.snapshot_eq_getLast? {m : Monitor} {log : List Sighting} (h : m.Reflects log)
    (hroom : 0 < m.capacity) : m.snapshot = m.history.getLast? := by
  rw [h.snapshot, h.history, List.rtake_eq_reverse_take_reverse, List.getLast?_reverse,
    List.head?_take, if_neg (by omega), List.head?_reverse]

end Monitor

end GestureScript
