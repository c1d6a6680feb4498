import GestureScript.Monitor.Listener
import GestureScript.Proofs.Monitor.Log

/-!
# What listeners do to a monitor

Whatever listeners do when they are told, the monitor changes by sightings only. Quiet
listeners, which do nothing or fail, leave nothing behind but what they noted.
-/

set_option autoImplicit false

namespace GestureScript

/-- A listener that does not call the monitor back. It may fail. -/
def Reaction.isQuiet : Reaction → Bool
  | .nothing | .fail => true
  | _ => false

namespace Audience

def Operation.isQuiet : Operation → Bool
  | .subscribe _ _ reaction | .unsubscribe _ _ reaction => reaction.isQuiet
  | _ => true

/-- What an operation lets a monitor see, if it is anything. -/
def Operation.sighting? : Operation → Option Sighting
  | .foreground (.ok now) (some p) =>
    if named : p.isEmpty = false then some (.foreground now p named) else none
  | .snapshot _ (some s) => some (.snapshot s)
  | .reset => some .reset
  | _ => none

/-- A name that is given is either ignored, or it is a package and the time is known. -/
theorem foreground_cases (now : ClockReading) (package : Option Package) :
    ((Operation.foreground now package).sighting? = none ∧
      ∀ m : Monitor, m.seeForeground now package = (m, none)) ∨
    ∃ time p, ∃ named : p.isEmpty = false, now = .ok time ∧ package = some p ∧
      (Operation.foreground now package).sighting? = some (.foreground time p named) := by
  cases now with
  | error f => exact .inl ⟨rfl, fun m => m.seeForeground_error f package⟩
  | ok time =>
    cases package with
    | none => exact .inl ⟨rfl, fun m => m.seeForeground_none _⟩
    | some p =>
      cases named : p.isEmpty with
      | true =>
        refine .inl ⟨by simp [Operation.sighting?, named], fun m => ?_⟩
        exact Monitor.seeForeground_of_isEmpty named m _
      | false => exact .inr ⟨time, p, named, rfl, rfl, by simp [Operation.sighting?, named]⟩

variable {observe : Option Package → Audience → Audience}

/-! ## Listeners of any kind -/

/-- From one audience to the other the monitor saw what is in the log. -/
def Sees (a b : Audience) (log : List Sighting) : Prop := b.monitor = a.monitor.replay log

/-- An observation changes the monitor by sightings only. -/
def Honest (observe : Option Package → Audience → Audience) : Prop :=
  ∀ package (a : Audience), ∃ log, a.Sees (observe package a) log

theorem Sees.refl (a : Audience) : a.Sees a [] := rfl

theorem Sees.trans {a b c : Audience} {first second : List Sighting} (h₁ : a.Sees b first)
    (h₂ : b.Sees c second) : a.Sees c (first ++ second) := by
  rw [Sees, Monitor.replay_append, ← h₁]
  exact h₂

theorem monitor_withListeners (a : Audience) (names : List String) (channel : Channel) :
    (a.withListeners names channel).monitor = a.monitor := by cases channel <;> rfl

theorem monitor_subscribe (a : Audience) (channel : Channel) (listener : String) :
    (a.subscribe channel listener).monitor = a.monitor := by
  unfold subscribe
  split
  · rfl
  · exact a.monitor_withListeners _ channel

theorem monitor_unsubscribe (a : Audience) (channel : Channel) (listener : String) :
    (a.unsubscribe channel listener).monitor = a.monitor := a.monitor_withListeners _ channel

theorem monitor_name (a : Audience) (channel : Channel) (listener : String)
    (reaction : Reaction) : (a.name channel listener reaction).monitor = a.monitor := by
  unfold name
  split <;> rfl

theorem exists_sees_react (hobserve : Honest observe) (channel : Channel)
    (listener : String) (a : Audience) : ∃ log, a.Sees (react observe channel listener a) log := by
  unfold react
  cases a.reaction channel listener with
  | nothing => exact ⟨[], .refl a⟩
  | fail => exact ⟨[], .refl a⟩
  | reset => exact ⟨[.reset], rfl⟩
  | observe p => exact hobserve p a
  | subscribe other =>
    exact ⟨[], (monitor_subscribe _ channel other).trans (a.monitor_name channel other .nothing)⟩
  | unsubscribe other =>
    exact ⟨[], (monitor_unsubscribe _ channel other).trans (a.monitor_name channel other .nothing)⟩

theorem exists_sees_tell (hobserve : Honest observe) (channel : Channel)
    (notice : Notice) (listeners : List String) (a : Audience) :
    ∃ log, a.Sees (tell observe channel notice listeners a) log := by
  induction listeners generalizing a with
  | nil => exact ⟨[], .refl a⟩
  | cons listener listeners ih =>
    obtain ⟨first, hfirst⟩ := exists_sees_react hobserve channel listener (a.note listener notice)
    obtain ⟨rest, hrest⟩ := ih (react observe channel listener (a.note listener notice))
    exact ⟨first ++ rest, Sees.trans (a := a.note listener notice) hfirst hrest⟩

/-- An observation is seen first, and then what the listeners make of it. -/
theorem exists_sees_seeForegroundWith (hobserve : Honest observe)
    (now : ClockReading) (package : Option Package) (a : Audience) :
    ∃ log, a.Sees (seeForegroundWith observe now package a)
      ((Operation.foreground now package).sighting?.toList ++ log) := by
  rcases foreground_cases now package with ⟨hnone, hignored⟩ | ⟨time, p, named, rfl, rfl, hsome⟩
  · refine ⟨[], ?_⟩
    simp [Sees, hnone, seeForegroundWith, hignored]
  · rw [hsome, Option.toList_some]
    by_cases hsame : a.monitor.foreground = some p
    · refine ⟨[], ?_⟩
      simp [Sees, seeForegroundWith, Monitor.see, Monitor.seeForeground_same hsame]
    · have hother := Monitor.seeForeground_other named hsame time
      obtain ⟨log, hlog⟩ := exists_sees_tell hobserve .transitions
        (.transition (a.monitor.transitionTo p time)) a.transitionListeners
        { a with monitor := (a.monitor.seeForeground (.ok time) (some p)).1 }
      have hseen : a.Sees { a with monitor := (a.monitor.seeForeground (.ok time) (some p)).1 }
          [.foreground time p named] := rfl
      refine ⟨log, hseen.trans ?_⟩
      simpa only [seeForegroundWith, hother] using hlog

theorem exists_sees_seeForeground (depth : Nat) (now : ClockReading) (package : Option Package)
    (a : Audience) :
    ∃ log, a.Sees (seeForeground depth now package a)
      ((Operation.foreground now package).sighting?.toList ++ log) := by
  -- what listeners observe in turn is nested once less
  induction depth generalizing package a with
  | zero => exact exists_sees_seeForegroundWith (fun _ a => ⟨[], .refl a⟩) now package a
  | succ depth ih =>
    apply exists_sees_seeForegroundWith
    intro p a
    obtain ⟨log, hlog⟩ := ih p a
    exact ⟨_, hlog⟩

theorem honest_seeForeground (depth : Nat) (now : ClockReading) :
    Honest (seeForeground depth now) := by
  intro package a
  obtain ⟨log, hlog⟩ := exists_sees_seeForeground depth now package a
  exact ⟨_, hlog⟩

/-- Every operation is seen, followed by what listeners do when they are told of it. -/
theorem exists_sees_apply (a : Audience) (op : Operation) :
    ∃ log, a.Sees (a.apply op) (op.sighting?.toList ++ log) := by
  cases op with
  | foreground now package => exact exists_sees_seeForeground depthLimit now package a
  | snapshot now s =>
    cases s with
    | none => exact ⟨[], rfl⟩
    | some s =>
      have hobserve : Honest (seeForeground depthLimit now) := honest_seeForeground depthLimit now
      obtain ⟨log, hlog⟩ := exists_sees_tell hobserve .snapshots (.snapshot s) a.snapshotListeners
        { a with monitor := a.monitor.seeSnapshot (some s) }
      exact ⟨log, Sees.trans (b := { a with monitor := a.monitor.seeSnapshot (some s) }) rfl hlog⟩
  | subscribe channel listener reaction =>
    exact ⟨[], (monitor_subscribe _ channel listener).trans
      (a.monitor_name channel listener reaction)⟩
  | unsubscribe channel listener reaction =>
    exact ⟨[], (monitor_unsubscribe _ channel listener).trans
      (a.monitor_name channel listener reaction)⟩
  | reset => exact ⟨[], rfl⟩

theorem run_cons (a : Audience) (op : Operation) (ops : List Operation) :
    a.run (op :: ops) = (a.apply op).run ops := rfl

theorem run_append (a : Audience) (first second : List Operation) :
    a.run (first ++ second) = (a.run first).run second := by simp [run]

/-- What the monitor saw in a run has all that the operations let it see, in order. -/
theorem exists_sees_run (a : Audience) (ops : List Operation) :
    ∃ log, a.Sees (a.run ops) log ∧ (ops.filterMap Operation.sighting?).Sublist log := by
  induction ops generalizing a with
  | nil => exact ⟨[], .refl a, .slnil⟩
  | cons op ops ih =>
    obtain ⟨more, hop⟩ := a.exists_sees_apply op
    obtain ⟨rest, hrest, hsublist⟩ := ih (a.apply op)
    refine ⟨_, hop.trans hrest, ?_⟩
    have hcons : (op :: ops).filterMap Operation.sighting? =
        op.sighting?.toList ++ ops.filterMap Operation.sighting? := by
      cases h : op.sighting? <;> simp [h]
    rw [hcons, List.append_assoc]
    exact (List.append_sublist_append_left _).mpr
      (hsublist.trans (List.sublist_append_right _ _))

/-! ## Quiet listeners -/

/-- No listener that has a name calls the monitor back. -/
def Quiet (a : Audience) : Prop := ∀ channel listener, (a.reaction channel listener).isQuiet = true

theorem quiet_new (m : Monitor) : Quiet { monitor := m } := fun _ _ => rfl

theorem Quiet.react {a : Audience} (h : a.Quiet) (channel : Channel) (listener : String) :
    react observe channel listener a = a := by
  have hquiet := h channel listener
  unfold Audience.react
  cases hreaction : a.reaction channel listener <;> simp_all [Reaction.isQuiet]

/-- Each listener notes what it is told. -/
theorem Quiet.tell {a : Audience} (h : a.Quiet) (channel : Channel) (notice : Notice)
    (listeners : List String) :
    tell observe channel notice listeners a =
      { a with told := a.told ++ listeners.map fun listener => (listener, notice) } := by
  induction listeners generalizing a with
  | nil => simp [Audience.tell]
  | cons listener listeners ih =>
    have hnote : (a.note listener notice).Quiet := h
    show Audience.tell observe channel notice listeners
      (Audience.react observe channel listener (a.note listener notice)) = _
    rw [hnote.react, ih hnote]
    simp [note]

theorem reaction_withListeners (a : Audience) (names : List String) (channel : Channel) :
    (a.withListeners names channel).reaction = a.reaction := by cases channel <;> rfl

theorem Quiet.name {a : Audience} (h : a.Quiet) (channel : Channel) (listener : String)
    {reaction : Reaction} (hreaction : reaction.isQuiet = true) :
    (a.name channel listener reaction).Quiet := by
  unfold Audience.name
  split
  · exact h
  · intro other others
    have hold := h other others
    simp only [Audience.reaction, List.lookup_append] at hold ⊢
    cases hfound : a.reactions.lookup (other, others) with
    | some r => simpa [hfound] using hold
    | none =>
      by_cases hkey : (other, others) = (channel, listener)
      · simpa [hkey] using hreaction
      · have hkey' : ((other, others) == (channel, listener)) = false := by simpa using hkey
        simp only [List.lookup_cons, hkey', List.lookup_nil]
        rfl

theorem Quiet.withListeners {a : Audience} (h : a.Quiet) (names : List String)
    (channel : Channel) : (a.withListeners names channel).Quiet := by
  intro other listener
  rw [reaction_withListeners]
  exact h other listener

theorem Quiet.subscribe {a : Audience} (h : a.Quiet) (channel : Channel) (listener : String) :
    (a.subscribe channel listener).Quiet := by
  unfold Audience.subscribe
  split
  · exact h
  · exact h.withListeners _ _

/-- The new transition is told to all who are subscribed to transitions. -/
theorem Quiet.seeForeground {a : Audience} (h : a.Quiet) (depth : Nat) (now : ClockReading)
    (package : Option Package) :
    seeForeground depth now package a =
      { a with
        monitor := (a.monitor.seeForeground now package).1
        told := a.told ++ (a.monitor.seeForeground now package).2.toList.flatMap fun t =>
          a.transitionListeners.map fun listener => (listener, .transition t) } := by
  -- quiet listeners observe nothing in turn, so the depth makes no difference
  have hwith : ∀ observe, seeForegroundWith observe now package a =
      { a with
        monitor := (a.monitor.seeForeground now package).1
        told := a.told ++ (a.monitor.seeForeground now package).2.toList.flatMap fun t =>
          a.transitionListeners.map fun listener => (listener, .transition t) } := by
    intro observe
    have hmonitor := a.monitor.seeForeground_fst_of_snd_eq_none now package
    unfold seeForegroundWith
    generalize a.monitor.seeForeground now package = after at hmonitor ⊢
    obtain ⟨m, t⟩ := after
    cases t with
    | none => simp [show m = a.monitor from hmonitor rfl]
    | some t =>
      have hquiet : Quiet { a with monitor := m } := h
      simp [hquiet.tell]
  cases depth with
  | zero => exact hwith _
  | succ depth => exact hwith _

theorem Quiet.apply {a : Audience} (h : a.Quiet) {op : Operation} (hop : op.isQuiet = true) :
    (a.apply op).Quiet := by
  cases op with
  | foreground now package =>
    rw [show a.apply (.foreground now package) = _ from h.seeForeground depthLimit now package]
    exact h
  | snapshot now s =>
    cases s with
    | none => exact h
    | some s =>
      have hquiet : Quiet { a with monitor := a.monitor.seeSnapshot (some s) } := h
      rw [show a.apply (.snapshot now (some s)) = _ from hquiet.tell _ _ _]
      exact h
  | subscribe channel listener reaction => exact (h.name channel listener hop).subscribe _ _
  | unsubscribe channel listener reaction => exact (h.name channel listener hop).withListeners _ _
  | reset => exact h

/-- Quiet listeners let the monitor see nothing of their own. -/
theorem Quiet.sees_apply {a : Audience} (h : a.Quiet) (op : Operation) :
    a.Sees (a.apply op) op.sighting?.toList := by
  cases op with
  | foreground now package =>
    rw [show a.apply (.foreground now package) = _ from h.seeForeground depthLimit now package]
    rcases foreground_cases now package with ⟨hnone, hignored⟩ | ⟨time, p, named, rfl, rfl, hsome⟩
    · simp [Sees, hnone, hignored]
    · rw [hsome]
      rfl
  | snapshot now s =>
    cases s with
    | none => rfl
    | some s =>
      have hquiet : Quiet { a with monitor := a.monitor.seeSnapshot (some s) } := h
      rw [show a.apply (.snapshot now (some s)) = _ from hquiet.tell _ _ _]
      rfl
  | subscribe channel listener reaction =>
    exact (monitor_subscribe _ channel listener).trans (a.monitor_name channel listener reaction)
  | unsubscribe channel listener reaction =>
    exact (monitor_unsubscribe _ channel listener).trans (a.monitor_name channel listener reaction)
  | reset => rfl

theorem Quiet.run {a : Audience} (h : a.Quiet) {ops : List Operation}
    (hops : ∀ op ∈ ops, op.isQuiet = true) :
    (a.run ops).Quiet ∧ a.Sees (a.run ops) (ops.filterMap Operation.sighting?) := by
  induction ops generalizing a with
  | nil => exact ⟨h, .refl a⟩
  | cons op ops ih =>
    obtain ⟨hop, hops⟩ := List.forall_mem_cons.mp hops
    obtain ⟨hquiet, hsees⟩ := ih (h.apply hop) hops
    refine ⟨hquiet, ?_⟩
    have htrans := (h.sees_apply op).trans hsees
    rw [run_cons]
    cases hsighting : op.sighting? <;> simpa [hsighting] using htrans

end Audience

end GestureScript
