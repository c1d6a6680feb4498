import GestureScript.Proofs.Monitor.Chain

/-!
# What a listener hears of transitions

As long as it stays subscribed, a listener is told the chain of transitions as it goes
on from where it was. Who else listens, and who fails, makes no difference to it.
-/

set_option autoImplicit false

namespace GestureScript

def Notice.transition? : Notice → Option Transition
  | .transition t => some t
  | .snapshot _ => none

namespace Audience

/-- The transitions that a listener was told. -/
def heard (listener : String) (a : Audience) : List Transition :=
  a.told.filterMap fun (name, notice) => if name = listener then notice.transition? else none

/-- Does an operation take a listener off the transitions? -/
def Operation.dismisses (listener : String) : Operation → Bool
  | .unsubscribe .transitions other _ => other == listener
  | _ => false

def Input.dismisses (listener : String) (i : Input) : Bool := i.toOperation.dismisses listener

theorem heard_append (listener : String) (a : Audience) (more : List (String × Notice)) :
    heard listener { a with told := a.told ++ more } =
      a.heard listener ++ more.filterMap fun (name, notice) =>
        if name = listener then notice.transition? else none := List.filterMap_append

/-- Of a transition that is told to all subscribers, each hears once. -/
theorem filterMap_tell {listener : String} {listeners : List String} (hmem : listener ∈ listeners)
    (hnodup : listeners.Nodup) (t : Transition) :
    (listeners.map fun name => (name, Notice.transition t)).filterMap
      (fun (name, notice) => if name = listener then notice.transition? else none) = [t] := by
  have hcount : listeners.count listener = 1 := List.count_eq_one_of_mem hnodup hmem
  calc (listeners.map fun name => (name, Notice.transition t)).filterMap
        (fun (name, notice) => if name = listener then notice.transition? else none)
      = (listeners.filter (· == listener)).map fun _ => t := by
        rw [List.filterMap_map, ← List.filterMap_eq_map', ← List.filterMap_eq_filter,
          List.filterMap_filterMap]
        congr 1
        funext name
        by_cases hname : name = listener <;> simp [hname, Notice.transition?, Option.guard]
    _ = [t] := by rw [List.filter_beq, hcount]; rfl

theorem filterMap_tell_snapshot (listener : String) (listeners : List String) (s : Snapshot) :
    (listeners.map fun name => (name, Notice.snapshot s)).filterMap
      (fun (name, notice) => if name = listener then notice.transition? else none) = [] := by
  simp [Notice.transition?]

/-! ## Who is subscribed -/

theorem transitionListeners_name (a : Audience) (channel : Channel) (listener : String)
    (reaction : Reaction) :
    (a.name channel listener reaction).transitionListeners = a.transitionListeners := by
  unfold name
  split <;> rfl

/-- An operation leaves the subscribers alone, adds one at the end or takes one off. -/
theorem Quiet.transitionListeners_apply {a : Audience} (h : a.Quiet) (op : Operation) :
    (a.apply op).transitionListeners = a.transitionListeners ∨
      (∃ listener, listener ∉ a.transitionListeners ∧
        (a.apply op).transitionListeners = a.transitionListeners ++ [listener]) ∨
      ∃ listener, op.dismisses listener = true ∧
        (a.apply op).transitionListeners = a.transitionListeners.erase listener := by
  cases op with
  | foreground now package =>
    left
    rw [show a.apply (.foreground now package) = _ from h.seeForeground depthLimit now package]
  | snapshot now s =>
    left
    cases s with
    | none => rfl
    | some s =>
      have hquiet : Quiet { a with monitor := a.monitor.seeSnapshot (some s) } := h
      rw [show a.apply (.snapshot now (some s)) = _ from hquiet.tell _ _ _]
  | subscribe channel listener reaction =>
    have hname := a.transitionListeners_name channel listener reaction
    let named := a.name channel listener reaction
    by_cases hold : listener ∈ named.listeners channel
    · left
      show (named.subscribe channel listener).transitionListeners = _
      rw [Audience.subscribe, if_pos hold, hname]
    · have hadded : a.apply (.subscribe channel listener reaction) =
          named.withListeners (named.listeners channel ++ [listener]) channel := by
        show named.subscribe channel listener = _
        rw [Audience.subscribe, if_neg hold]
      rw [hadded]
      cases channel with
      | snapshots => exact .inl hname
      | transitions =>
        refine .inr (.inl ⟨listener, ?_, ?_⟩)
        · rw [← hname]
          exact hold
        · rw [← hname]
          rfl
  | unsubscribe channel listener reaction =>
    have hname := a.transitionListeners_name channel listener reaction
    cases channel with
    | snapshots => exact .inl hname
    | transitions =>
      refine .inr (.inr ⟨listener, by simp [Operation.dismisses], ?_⟩)
      rw [← hname]
      rfl
  | reset => exact .inl rfl

theorem Quiet.nodup_apply {a : Audience} (h : a.Quiet) (op : Operation)
    (hnodup : a.transitionListeners.Nodup) : (a.apply op).transitionListeners.Nodup := by
  rcases h.transitionListeners_apply op with heq | ⟨listener, hnew, heq⟩ | ⟨listener, _, heq⟩
  · rwa [heq]
  · rw [heq, ← List.concat_eq_append]
    exact hnodup.concat hnew
  · rw [heq]
    exact hnodup.erase listener

theorem Quiet.mem_apply {a : Audience} (h : a.Quiet) {op : Operation} {listener : String}
    (hmem : listener ∈ a.transitionListeners) (hstays : op.dismisses listener = false) :
    listener ∈ (a.apply op).transitionListeners := by
  rcases h.transitionListeners_apply op with heq | ⟨other, _, heq⟩ | ⟨other, hother, heq⟩
  · rwa [heq]
  · rw [heq]
    exact List.mem_append_left _ hmem
  · have hne : listener ≠ other := by
      rintro rfl
      simp [hother] at hstays
    rw [heq]
    exact (List.mem_erase_of_ne hne).mpr hmem

theorem Quiet.nodup_run {a : Audience} (h : a.Quiet) {ops : List Operation}
    (hops : ∀ op ∈ ops, op.isQuiet = true) (hnodup : a.transitionListeners.Nodup) :
    (a.run ops).transitionListeners.Nodup := by
  induction ops generalizing a with
  | nil => exact hnodup
  | cons op ops ih =>
    obtain ⟨hop, hops⟩ := List.forall_mem_cons.mp hops
    exact ih (h.apply hop) hops (h.nodup_apply op hnodup)

/-! ## Hearing -/

/-- A subscriber hears the transition that an operation makes, if it makes one. -/
theorem Quiet.heard_apply {a : Audience} (h : a.Quiet) {listener : String}
    (hmem : listener ∈ a.transitionListeners) (hnodup : a.transitionListeners.Nodup)
    (op : Operation) :
    (a.apply op).heard listener =
      a.heard listener ++ follow a.monitor.foreground op.sighting?.toList := by
  cases op with
  | foreground now package =>
    rw [show a.apply (.foreground now package) = _ from h.seeForeground depthLimit now package]
    have hheard := heard_append listener
      { a with monitor := (a.monitor.seeForeground now package).1 }
      ((a.monitor.seeForeground now package).2.toList.flatMap fun t =>
        a.transitionListeners.map fun name => (name, .transition t))
    refine hheard.trans (congrArg (a.heard listener ++ ·) ?_)
    rcases foreground_cases now package with ⟨hnone, hignored⟩ | ⟨time, p, named, rfl, rfl, hsome⟩
    · rw [hnone, hignored]
      rfl
    · rw [hsome, Option.toList_some, follow]
      by_cases hsame : a.monitor.foreground = some p
      · rw [Monitor.seeForeground_same hsame, if_pos hsame]
        rfl
      · rw [Monitor.seeForeground_other named hsame, if_neg hsame]
        simpa [follow, Monitor.transitionTo] using
          filterMap_tell hmem hnodup (a.monitor.transitionTo p time)
  | snapshot now s =>
    cases s with
    | none => exact (List.append_nil _).symm
    | some s =>
      have hquiet : Quiet { a with monitor := a.monitor.seeSnapshot (some s) } := h
      rw [show a.apply (.snapshot now (some s)) = _ from hquiet.tell _ _ _]
      refine (heard_append listener { a with monitor := a.monitor.seeSnapshot (some s) } _).trans ?_
      rw [filterMap_tell_snapshot]
      rfl
  | subscribe channel other reaction =>
    have htold : (a.apply (.subscribe channel other reaction)).told = a.told := by
      show (Audience.subscribe (a.name channel other reaction) channel other).told = a.told
      unfold Audience.subscribe Audience.name
      split <;> split <;> cases channel <;> rfl
    simp [heard, htold, Operation.sighting?, follow]
  | unsubscribe channel other reaction =>
    have htold : (a.apply (.unsubscribe channel other reaction)).told = a.told := by
      show (Audience.unsubscribe (a.name channel other reaction) channel other).told = a.told
      unfold Audience.unsubscribe Audience.name
      split <;> cases channel <;> rfl
    simp [heard, htold, Operation.sighting?, follow]
  | reset => exact (List.append_nil _).symm

theorem Quiet.heard_run {a : Audience} (h : a.Quiet) {listener : String}
    (hmem : listener ∈ a.transitionListeners) (hnodup : a.transitionListeners.Nodup)
    {ops : List Operation} (hops : ∀ op ∈ ops, op.isQuiet = true)
    (hstays : ∀ op ∈ ops, op.dismisses listener = false) :
    (a.run ops).heard listener =
      a.heard listener ++ follow a.monitor.foreground (ops.filterMap Operation.sighting?) := by
  induction ops generalizing a with
  | nil => exact (List.append_nil _).symm
  | cons op ops ih =>
    obtain ⟨hop, hops⟩ := List.forall_mem_cons.mp hops
    obtain ⟨hstay, hstays⟩ := List.forall_mem_cons.mp hstays
    have hlog : (op :: ops).filterMap Operation.sighting? =
        op.sighting?.toList ++ ops.filterMap Operation.sighting? := by
      cases hsighting : op.sighting? <;> simp [hsighting]
    have hsees : (a.apply op).monitor = a.monitor.replay op.sighting?.toList := h.sees_apply op
    rw [run_cons, ih (h.apply hop) (h.mem_apply hmem hstay) (h.nodup_apply op hnodup) hops hstays,
      h.heard_apply hmem hnodup op, hlog, Monitor.follow_append, hsees, List.append_assoc]

end Audience

end GestureScript
