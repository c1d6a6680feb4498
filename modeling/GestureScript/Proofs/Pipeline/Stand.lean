import GestureScript.Proofs.Pipeline.Report

/-!
# How dispatches stand

A dispatch was turned away, or waits to be handed over, or was handed over once. What the
sink heard, what it is settled with and the answer of the capability agree in each case,
for all dispatches at once and whatever move comes next.
-/

set_option autoImplicit false

namespace GestureScript.Pipeline.Traffic

variable {σ : Type}

/-- How the `n`th dispatch stands. It was asked for a command, and found a capability that
was ready or none. -/
inductive Reported (t : Traffic σ) (n : Nat) (c : Command) : Bool → Prop
  | turnedAway : t.waiting n = none →
      t.pipeline.dispatches[n]? = some ⟨c, false, some .notReady⟩ → t.pipeline.callsFor n = [] →
      t.pipeline.eventsOf n = closing t.pipeline.sink n c (some .notReady) → Reported t n c false
  | waiting (i : Nat) : t.waiting n = some i →
      t.pipeline.dispatches[n]? = some ⟨c, false, none⟩ → t.pipeline.callsFor n = [] →
      t.pipeline.eventsOf n = t.pipeline.sink.heard (some n) (.dispatched c) → Reported t n c true
  | handedOver (call : Gate.Call Nat) : t.waiting n = none →
      t.pipeline.dispatches[n]? = some ⟨c, true, call.outcome⟩ → t.pipeline.callsFor n = [call] →
      call.submission = .command c →
      t.pipeline.eventsOf n = t.pipeline.sink.heard (some n) (.dispatched c) ++
        closing t.pipeline.sink n c call.outcome → Reported t n c true

/-- A number is not given to a dispatch yet, or its dispatch is as the look says. -/
inductive Stands (t : Traffic σ) (n : Nat) : Prop
  | toCome : t.waiting n = none → t.looks[n]? = none → t.pipeline.dispatches[n]? = none →
      t.pipeline.callsFor n = [] → t.pipeline.eventsOf n = [] → Stands t n
  | begun (c : Command) (ready : Bool) : t.looks[n]? = some ready → t.Reported n c ready →
      Stands t n

structure Orderly (t : Traffic σ) : Prop where
  reachable : ∀ cap ∈ t.pipeline.fleet, cap.gate.Reachable
  waiting : ∀ n i, t.waiting n = some i → i < t.pipeline.fleet.length
  stands : ∀ n, t.Stands n

/-- The outcome of a dispatch, if it is settled. -/
def outcome? (t : Traffic σ) (n : Nat) : Option Outcome :=
  t.pipeline.dispatches[n]?.bind (·.outcome)

/-- Nothing that is known of the dispatch changed, and it waits as before. -/
structure Keeps (n : Nat) (t t' : Traffic σ) : Prop where
  waiting : t'.waiting n = t.waiting n
  looks : t'.looks[n]? = t.looks[n]?
  pipeline : t.pipeline.Keeps n t'.pipeline

theorem Stands.keeps {n : Nat} {t t' : Traffic σ} (h : t.Stands n) (hkeeps : Keeps n t t') :
    t'.Stands n := by
  obtain ⟨hwaiting, hlooks, hsink, hdispatch, hcalls, hevents⟩ := hkeeps
  cases h with
  | toCome hw hl hd hc he =>
    exact .toCome (hwaiting.trans hw) (hlooks.trans hl) (hdispatch.trans hd) (hcalls.trans hc)
      (hevents.trans he)
  | begun c ready hl hreported =>
    refine .begun c ready (hlooks.trans hl) ?_
    cases hreported with
    | turnedAway hw hd hc he =>
      exact .turnedAway (hwaiting.trans hw) (hdispatch.trans hd) (hcalls.trans hc)
        (by rw [hevents, hsink, he])
    | waiting i hw hd hc he =>
      exact .waiting i (hwaiting.trans hw) (hdispatch.trans hd) (hcalls.trans hc)
        (by rw [hevents, hsink, he])
    | handedOver call hw hd hc hs he =>
      exact .handedOver call (hwaiting.trans hw) (hdispatch.trans hd) (hcalls.trans hc) hs
        (by rw [hevents, hsink, he])

/-- A move leaves a dispatch as it is, or it was not settled and stands well now. -/
def Goes (t t' : Traffic σ) (n : Nat) : Prop :=
  Keeps n t t' ∨ t.outcome? n = none ∧ t'.Stands n

theorem Goes.stands {t t' : Traffic σ} {n : Nat} (h : t.Goes t' n) (hstands : t.Stands n) :
    t'.Stands n := by
  rcases h with hkeeps | ⟨_, hnow⟩
  · exact hstands.keeps hkeeps
  · exact hnow

/-! ## Asking -/

/-- A number that has not been given to a dispatch. -/
theorem Orderly.toCome {t : Traffic σ} (h : t.Orderly) :
    let n := t.pipeline.dispatches.length
    t.waiting n = none ∧ t.looks.length = n ∧ t.pipeline.callsFor n = [] ∧
      t.pipeline.eventsOf n = [] := by
  intro n
  have hlength : t.looks.length = n := by
    -- a number has a look just when it has a dispatch
    have hiff : ∀ m : Nat, t.looks[m]? = none ↔ t.pipeline.dispatches[m]? = none := by
      intro m
      cases h.stands m with
      | toCome _ hl hd => simp [hl, hd]
      | begun c ready hl hreported => cases hreported <;> simp_all
    have hle := (hiff t.looks.length).mp (List.getElem?_eq_none (Nat.le_refl _))
    have hge := (hiff n).mpr (List.getElem?_eq_none (Nat.le_refl _))
    rw [List.getElem?_eq_none_iff] at hle hge
    exact Nat.le_antisymm hge hle
  cases h.stands n with
  | toCome hw _ _ hc he => exact ⟨hw, hlength, hc, he⟩
  | begun c ready hl _ =>
    rw [List.getElem?_eq_none (by omega)] at hl
    cases hl

theorem Orderly.nothing_of_later {t : Traffic σ} (h : t.Orderly) {n : Nat}
    (hn : t.pipeline.dispatches.length ≤ n) :
    t.pipeline.eventsOf n = [] ∧ t.pipeline.callsFor n = [] := by
  have hnone : t.pipeline.dispatches[n]? = none := List.getElem?_eq_none hn
  cases h.stands n with
  | toCome _ _ _ hc he => exact ⟨he, hc⟩
  | begun c ready _ hreported =>
    cases hreported with
    | turnedAway _ hd => simp [hd] at hnone
    | waiting _ _ hd => simp [hd] at hnone
    | handedOver _ _ hd => simp [hd] at hnone

theorem getElem?_concat_ne {α : Type} {as : List α} {n : Nat} (h : n ≠ as.length) (a : α) :
    (as ++ [a])[n]? = as[n]? := by
  rw [List.getElem?_append]
  split
  · rfl
  next hlt => rw [List.getElem?_eq_none (by simp; omega), List.getElem?_eq_none (by omega)]

theorem keeps_addDispatch {n : Nat} {p : Pipeline σ} (h : n ≠ p.dispatches.length) (c : Command) :
    p.Keeps n (p.addDispatch c) := ⟨rfl, getElem?_concat_ne h _, rfl, rfl⟩

theorem poll_lt {w : Worker σ} {p : Pipeline σ} {i : Nat} (h : (p.poll w).1 = some i) :
    i < (p.poll w).2.fleet.length := by
  unfold poll at h ⊢
  split at h
  · simp at h
  next j hj =>
    split at h
    · simp at h
    next cap hcap =>
      have hlt := (List.getElem?_eq_some_iff.mp hcap).1
      obtain rfl : j = i := by
        by_contra hne
        simp [hne] at h
      simpa [hcap, replace] using hlt

theorem ask_of_none {w : Worker σ} {c : Command} {t : Traffic σ}
    (h : ((t.pipeline.addDispatch c).poll w).1 = none) :
    t.ask w c =
      { t with
        pipeline :=
          ((t.pipeline.addDispatch c).poll w).2.settle t.pipeline.dispatches.length .notReady
        looks := t.looks ++ [false] } := by
  unfold ask
  dsimp only
  split
  next heq => rw [heq]
  next heq => simp [heq] at h

theorem ask_of_some {w : Worker σ} {c : Command} {t : Traffic σ} {i : Nat}
    (h : ((t.pipeline.addDispatch c).poll w).1 = some i) :
    t.ask w c =
      { pipeline := ((t.pipeline.addDispatch c).poll w).2.emit
          (some t.pipeline.dispatches.length) (.dispatched c)
        waiting := Function.update t.waiting t.pipeline.dispatches.length (some i)
        looks := t.looks ++ [true] } := by
  unfold ask
  dsimp only
  split
  next heq => simp [heq] at h
  next j p heq =>
    obtain rfl : j = i := by simpa [heq] using h
    rw [heq]

/-- The dispatch that is asked for gets the next number, and stands as it found the capability. -/
theorem Orderly.stands_ask {t : Traffic σ} (h : t.Orderly) (w : Worker σ) (c : Command) :
    (t.ask w c).Stands t.pipeline.dispatches.length := by
  obtain ⟨hwaiting, hlooks, hcalls, hevents⟩ := h.toCome
  have hpoll := keeps_poll t.pipeline.dispatches.length w (t.pipeline.addDispatch c)
  have hdispatch : ((t.pipeline.addDispatch c).poll w).2.dispatches[t.pipeline.dispatches.length]? =
      some ⟨c, false, none⟩ := hpoll.dispatch.trans List.getElem?_concat_length
  have hfound (b : Bool) : (t.looks ++ [b])[t.pipeline.dispatches.length]? = some b := by
    rw [← hlooks, List.getElem?_concat_length]
  cases hlook : ((t.pipeline.addDispatch c).poll w).1 with
  | none =>
    have hsink := (grows_settle ((t.pipeline.addDispatch c).poll w).2
      t.pipeline.dispatches.length .notReady).sink
    rw [ask_of_none hlook]
    refine .begun c false (hfound false) (.turnedAway hwaiting ?_ ?_ ?_)
    · simp [settle_eq hdispatch, hdispatch]
    · rw [callsFor, fleet_settle, ← callsFor, hpoll.calls]
      exact hcalls
    · rw [eventsOf_settle hdispatch, hpoll.events, hsink]
      exact congrArg (· ++ _) hevents
  | some i =>
    have hsink := (grows_emit ((t.pipeline.addDispatch c).poll w).2
      t.pipeline.dispatches.length (.dispatched c)).sink
    rw [ask_of_some hlook]
    refine .begun c true (hfound true) (.waiting i ?_ ?_ ?_ ?_)
    · simp
    · rw [dispatches_emit, hdispatch]
    · rw [callsFor, fleet_emit, ← callsFor, hpoll.calls]
      exact hcalls
    · rw [eventsOf_emit, hpoll.events, hsink]
      exact congrArg (· ++ _) hevents

theorem Orderly.keeps_ask {t : Traffic σ} (h : t.Orderly) (w : Worker σ) (c : Command) {n : Nat}
    (hn : n ≠ t.pipeline.dispatches.length) : Keeps n t (t.ask w c) := by
  obtain ⟨_, hlooks, _, _⟩ := h.toCome
  have hlook (b : Bool) : (t.looks ++ [b])[n]? = t.looks[n]? :=
    getElem?_concat_ne (by rwa [hlooks]) b
  have hpoll := (keeps_addDispatch hn c).trans (keeps_poll n w _)
  cases hready : ((t.pipeline.addDispatch c).poll w).1 with
  | none =>
    rw [ask_of_none hready]
    exact ⟨rfl, hlook false, hpoll.trans (keeps_settle hn.symm _ _)⟩
  | some i =>
    rw [ask_of_some hready]
    refine ⟨Function.update_of_ne hn _ _, hlook true, hpoll.trans (keeps_emit ?_ _ _)⟩
    intro heq
    exact hn (Option.some.inj heq).symm

theorem Orderly.goes_ask {t : Traffic σ} (h : t.Orderly) (w : Worker σ) (c : Command) (n : Nat) :
    t.Goes (t.ask w c) n := by
  by_cases hn : n = t.pipeline.dispatches.length
  · subst hn
    exact .inr ⟨by simp [outcome?], h.stands_ask w c⟩
  · exact .inl (h.keeps_ask w c hn)

/-! ## Handing over -/

/-- A dispatch that waits to be handed over has no answer and has made no call. -/
theorem Orderly.reported_of_waiting {t : Traffic σ} (h : t.Orderly) {n i : Nat}
    (hwaiting : t.waiting n = some i) :
    ∃ c, t.looks[n]? = some true ∧ t.pipeline.dispatches[n]? = some ⟨c, false, none⟩ ∧
      t.pipeline.callsFor n = [] ∧
      t.pipeline.eventsOf n = t.pipeline.sink.heard (some n) (.dispatched c) := by
  cases h.stands n with
  | toCome hw => simp [hw] at hwaiting
  | begun c ready hl hreported =>
    cases hreported with
    | turnedAway hw => simp [hw] at hwaiting
    | handedOver call hw => simp [hw] at hwaiting
    | waiting j _ hd hc he => exact ⟨c, hl, hd, hc, he⟩

/-- The call that a dispatch makes is its only call, and is answered now or later. -/
theorem Orderly.goes_handOver {t : Traffic σ} (h : t.Orderly) (w : Worker σ) (m n : Nat) :
    t.Goes (t.handOver w m) n := by
  unfold handOver
  split
  case h_2 => exact .inl ⟨rfl, rfl, .refl n _⟩
  next i d hwaiting hd =>
    obtain ⟨c, hlook, hc, hcalls, hevents⟩ := h.reported_of_waiting hwaiting
    obtain rfl : d = ⟨c, false, none⟩ := Option.some.inj (hd.symm.trans hc)
    have hlt := h.waiting m i hwaiting
    have hfound : t.pipeline.fleet[i]? = some t.pipeline.fleet[i] := List.getElem?_eq_getElem hlt
    have hreachable := h.reachable _ (List.getElem_mem hlt)
    by_cases hn : m = n
    · subst hn
      obtain ⟨call, hsubmission, hdispatch, honly, hclosing, hsink⟩ :=
        handOver_about w hfound hreachable hd hcalls
      right
      refine ⟨by simp [outcome?, hd], .begun c true hlook ?_⟩
      refine .handedOver call (Function.update_self _ _ _) hdispatch honly hsubmission ?_
      rw [hclosing, hevents, hsink]
    · have hkeeps := keeps_handOver w hfound hreachable hn c
      exact .inl ⟨Function.update_of_ne (Ne.symm hn) _ _, rfl, hkeeps⟩

/-! ## Every move -/

/-- A capability that goes on answers at most the call of one dispatch, which had no answer. -/
theorem Orderly.goes_ends {t : Traffic σ} (h : t.Orderly) {i : Nat}
    {before after : Capability σ Nat} (hfound : t.pipeline.fleet[i]? = some before)
    (hends : before.gate.Ends after.gate) (n : Nat) :
    t.Goes { t with pipeline := t.pipeline.advance i before after } n := by
  rcases advance_ends hfound hends n with hkeeps | ⟨call, o, hnone, hmem, hanswered⟩
  · exact .inl ⟨rfl, rfl, hkeeps⟩
  · right
    -- only a dispatch that is handed over has a call, and so can be answered
    cases h.stands n with
    | toCome _ _ _ hc => simp [hc] at hmem
    | begun c ready hl hreported =>
      cases hreported with
      | turnedAway _ _ hc => simp [hc] at hmem
      | waiting _ _ _ hc => simp [hc] at hmem
      | handedOver only hw hd hc hs he =>
        obtain rfl : call = only := by simpa [hc] using hmem
        rw [hnone] at hd he
        obtain ⟨hdispatch, honly, hclosing, hsink⟩ := hanswered _ hd rfl hc
        refine ⟨by simp [outcome?, hd], .begun c true hl (.handedOver (call.resolve o) hw
          hdispatch honly hs ?_)⟩
        rw [hclosing, he, hsink]
        simp [closing, Gate.Call.resolve]

theorem goes_of_keeps {t : Traffic σ} {p : Pipeline σ} {n : Nat} (h : t.pipeline.Keeps n p) :
    t.Goes { t with pipeline := p } n := .inl ⟨rfl, rfl, h⟩

theorem Orderly.goes_stop {t : Traffic σ} (h : t.Orderly) (i n : Nat) :
    t.Goes { t with pipeline := t.pipeline.stop i } n := by
  unfold stop
  split
  · exact goes_of_keeps (.refl n _)
  next cap hfound =>
    have hreachable := h.reachable cap (List.mem_of_getElem? hfound)
    exact h.goes_ends hfound (Capability.ends_shutDown hreachable) n

/-- Forgetting the screen changes nothing that is known of a dispatch. -/
theorem Goes.reset {t : Traffic σ} {p : Pipeline σ} {n : Nat}
    (h : t.Goes { t with pipeline := p } n) (monitor : Monitor) :
    t.Goes { t with pipeline := { p with monitor := monitor } } n := by
  have hreset : Keeps n { t with pipeline := p }
      { t with pipeline := { p with monitor := monitor } } := ⟨rfl, rfl, rfl, rfl, rfl, rfl⟩
  rcases h with ⟨hw, hl, hp⟩ | ⟨hnone, hnow⟩
  · exact .inl ⟨hw, hl, hp.trans hreset.pipeline⟩
  · exact .inr ⟨hnone, hnow.keeps hreset⟩

theorem Orderly.goes_step {t : Traffic σ} (h : t.Orderly) (w : Worker σ) (m : Move σ) (n : Nat) :
    t.Goes (t.step w m) n := by
  cases m with
  | ask c => exact h.goes_ask w c n
  | askLine line =>
    rw [step, askLine]
    split
    · exact h.goes_ask w _ n
    · exact goes_of_keeps (keeps_emit (by simp) _ _)
  | handOver m => exact h.goes_handOver w m n
  | create st => exact goes_of_keeps (keeps_enlist n st _)
  | attach i => exact goes_of_keeps ⟨rfl, rfl, rfl, rfl⟩
  | callAside i s => exact goes_of_keeps (keeps_callAside w h.reachable i n s)
  | alter i st ending => exact goes_of_keeps (keeps_alter n i st ending _)
  | letGo i =>
    rw [step, Pipeline.letGo]
    split
    · exact goes_of_keeps (.refl n _)
    next cap hfound =>
      have hreachable := h.reachable cap (List.mem_of_getElem? hfound)
      exact h.goes_ends hfound (Capability.ends_letGo hreachable) n
  | stop i => exact h.goes_stop i n
  | shutDown =>
    rw [step, shutDown_eq]
    cases t.pipeline.attached with
    | none => exact (goes_of_keeps (.refl n _)).reset _
    | some i => exact (h.goes_stop i n).reset _
  | pause => exact goes_of_keeps (keeps_pause n _)

/-! ## Every run -/

theorem waiting_ask {w : Worker σ} {c : Command} {t : Traffic σ} {n i : Nat}
    (h : (t.ask w c).waiting n = some i) :
    t.waiting n = some i ∨ i < (t.ask w c).pipeline.fleet.length := by
  cases hready : ((t.pipeline.addDispatch c).poll w).1 with
  | none =>
    rw [ask_of_none hready] at h
    exact .inl h
  | some j =>
    rw [ask_of_some hready] at h ⊢
    by_cases hn : n = t.pipeline.dispatches.length
    · obtain rfl : j = i := by simpa [hn] using h
      right
      rw [fleet_emit]
      exact poll_lt hready
    · exact .inl (by simpa [hn] using h)

/-- A dispatch waits for a capability from its first half on, and no longer than to its second. -/
theorem waiting_step {w : Worker σ} {t : Traffic σ} {m : Move σ} {n i : Nat}
    (h : (t.step w m).waiting n = some i) :
    t.waiting n = some i ∨ i < (t.step w m).pipeline.fleet.length := by
  cases m with
  | ask c => exact waiting_ask h
  | askLine line =>
    rw [step, askLine] at h ⊢
    split at h
    · exact waiting_ask h
    · exact .inl h
  | handOver m =>
    rw [step, handOver] at h
    split at h
    · by_cases hn : n = m
      · simp [hn] at h
      · exact .inl (by simpa [hn] using h)
    · exact .inl h
  | _ => exact .inl h

theorem Orderly.step {t : Traffic σ} (h : t.Orderly) (w : Worker σ) (m : Move σ) :
    (t.step w m).Orderly where
  reachable := (t.evolves_step w m).reachable h.reachable
  waiting := by
    intro n i hi
    rcases waiting_step hi with hold | hnew
    · exact Nat.lt_of_lt_of_le (h.waiting n i hold) (t.evolves_step w m).length_le
    · exact hnew
  stands n := (h.goes_step w m n).stands (h.stands n)

theorem Orderly.run {t : Traffic σ} (h : t.Orderly) (w : Worker σ) (moves : List (Move σ)) :
    (t.run w moves).Orderly := by
  induction moves generalizing t with
  | nil => exact h
  | cons m moves ih => exact ih (h.step w m)

/-- Once a dispatch is settled, no move changes what is known of it. -/
theorem Orderly.keeps_run {t : Traffic σ} (h : t.Orderly) {n : Nat}
    (hsettled : (t.outcome? n).isSome) (w : Worker σ) (moves : List (Move σ)) :
    Keeps n t (t.run w moves) := by
  induction moves generalizing t with
  | nil => exact ⟨rfl, rfl, .refl n _⟩
  | cons m moves ih =>
    rcases h.goes_step w m n with ⟨hw, hl, hp⟩ | ⟨hnone, _⟩
    · have hstill : ((t.step w m).outcome? n).isSome := by
        rwa [outcome?, hp.dispatch]
      obtain ⟨hw', hl', hp'⟩ := ih (h.step w m) hstill
      exact ⟨hw'.trans hw, hl'.trans hl, hp.trans hp'⟩
    · simp [hnone] at hsettled

end GestureScript.Pipeline.Traffic
