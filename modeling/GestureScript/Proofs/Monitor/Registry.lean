import GestureScript.Monitor.Listener
import Mathlib.Data.List.Nodup

/-!
# Who is subscribed

The listeners of a channel are those whose registration still stands, in the order of these
registrations. `standing` reads them off all that was ever asked for, looking forward from
each registration to see whether it was given up.
-/

set_option autoImplicit false

namespace GestureScript

/-- Something asked for about the listeners of one channel. -/
inductive Change where
  | join (listener : String)
  | leave (listener : String)
  deriving DecidableEq, Repr

/-- Whoever joins and does not leave later is listed where it joined. What it asks for in the
meantime does not move it. -/
def standing : List Change → List String
  | [] => []
  | .join x :: log => if .leave x ∈ log then standing log else x :: (standing log).filter (· != x)
  | .leave _ :: log => standing log

theorem nodup_standing (log : List Change) : (standing log).Nodup := by
  induction log with
  | nil => exact .nil
  | cons c log ih =>
    cases c with
    | leave x => exact ih
    | join x =>
      rw [standing]
      split
      · exact ih
      · exact List.nodup_cons.mpr ⟨by simp, ih.filter _⟩

/-- Who is listed already stays where it is. -/
theorem standing_append_join (log : List Change) (x : String) : standing (log ++ [.join x]) =
    if x ∈ standing log then standing log else standing log ++ [x] := by
  induction log with
  | nil => rfl
  | cons c log ih =>
    cases c with
    | leave y => exact ih
    | join y =>
      rw [List.cons_append, standing, standing, ih]
      have hleave : .leave y ∈ log ++ [.join x] ↔ .leave y ∈ log := by simp
      rw [if_congr hleave rfl rfl]
      by_cases hleft : .leave y ∈ log
      · rw [if_pos hleft, if_pos hleft]
      · rw [if_neg hleft, if_neg hleft]
        by_cases hsame : x = y
        · subst hsame
          split <;> simp
        · by_cases hmem : x ∈ standing log <;> simp [hmem, hsame]

theorem standing_append_leave (log : List Change) (x : String) :
    standing (log ++ [.leave x]) = (standing log).erase x := by
  rw [(nodup_standing log).erase_eq_filter]
  induction log with
  | nil => rfl
  | cons c log ih =>
    cases c with
    | leave y => exact ih
    | join y =>
      rw [List.cons_append, standing, standing, ih]
      by_cases hsame : y = x
      · subst hsame
        rw [if_pos (by simp)]
        split <;> simp [List.filter_filter]
      · have hleave : .leave y ∈ log ++ [.leave x] ↔ .leave y ∈ log := by simp [hsame]
        rw [if_congr hleave rfl rfl]
        split
        · rfl
        · simp [hsame, List.filter_filter, Bool.and_comm]

namespace Audience

/-! ## Subscribing and unsubscribing -/

variable (a : Audience) (channel : Channel) (listener : String)

theorem listeners_withListeners (names : List String) (other : Channel) :
    (a.withListeners names channel).listeners other =
      if channel = other then names else a.listeners other := by
  cases channel <;> cases other <;> rfl

theorem listeners_name (reaction : Reaction) :
    (a.name channel listener reaction).listeners = a.listeners := by
  unfold name
  split <;> rfl

theorem listeners_subscribe_of_ne {channel other : Channel} (h : channel ≠ other) :
    (a.subscribe channel listener).listeners other = a.listeners other := by
  unfold subscribe
  split
  · rfl
  · rw [listeners_withListeners, if_neg h]

theorem listeners_unsubscribe_of_ne {channel other : Channel} (h : channel ≠ other) :
    (a.unsubscribe channel listener).listeners other = a.listeners other := by
  rw [unsubscribe, listeners_withListeners, if_neg h]

theorem told_withListeners (names : List String) :
    (a.withListeners names channel).told = a.told := by cases channel <;> rfl

theorem told_name (reaction : Reaction) : (a.name channel listener reaction).told = a.told := by
  unfold name
  split <;> rfl

theorem told_subscribe : (a.subscribe channel listener).told = a.told := by
  unfold subscribe
  split
  · rfl
  · exact a.told_withListeners channel _

theorem told_unsubscribe : (a.unsubscribe channel listener).told = a.told :=
  a.told_withListeners channel _

/-- Nothing changes for who is subscribed. -/
theorem subscribe_of_mem (h : listener ∈ a.listeners channel) :
    a.subscribe channel listener = a := if_pos h

/-- Nothing changes for who is not subscribed. -/
theorem unsubscribe_of_not_mem (h : listener ∉ a.listeners channel) :
    a.unsubscribe channel listener = a := by
  rw [unsubscribe, List.erase_of_not_mem h]
  cases channel <;> rfl

/-- The listeners of a channel are those who stand, given all that was asked for. -/
def Stands (channel : Channel) (log : List Change) : Prop := a.listeners channel = standing log

variable {a channel listener}

theorem Stands.subscribe {log : List Change} (h : a.Stands channel log) :
    (a.subscribe channel listener).Stands channel (log ++ [.join listener]) := by
  rw [Stands, standing_append_join, ← h]
  unfold Audience.subscribe
  split
  · rfl
  · rw [listeners_withListeners, if_pos rfl]

theorem Stands.unsubscribe {log : List Change} (h : a.Stands channel log) :
    (a.unsubscribe channel listener).Stands channel (log ++ [.leave listener]) := by
  rw [Stands, standing_append_leave, ← h, Audience.unsubscribe, listeners_withListeners,
    if_pos rfl]

end Audience

end GestureScript
