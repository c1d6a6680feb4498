import GestureScript.Proofs.Pipeline.Growth

/-!
# What is known of a dispatch

The calls that were made for a dispatch, at whichever capability, and the events that
tell of it. An answer to such a call reaches this dispatch and no other, and a call that
is not made for it leaves it alone.
-/

set_option autoImplicit false

namespace GestureScript

/-- Is whoever made the call called back for that dispatch? -/
def Gate.Call.isFor (n : Nat) (call : Gate.Call Nat) : Bool := call.callback.any (·.target == n)

namespace Pipeline

variable {σ : Type}

def Event.isAbout (n : Nat) : Event → Bool
  | .told m _ => m == some n
  | .settled m _ => m == n
  | _ => false

def callsFor (n : Nat) (p : Pipeline σ) : List (Gate.Call Nat) :=
  p.fleet.flatMap fun cap => cap.gate.calls.filter (·.isFor n)

def eventsOf (n : Nat) (p : Pipeline σ) : List Event := p.trace.filter (·.isAbout n)

/-- The sink hears of the outcome first, and then the dispatch is settled with it. -/
def closing (sink : Sink) (n : Nat) (c : Command) (o : Option Outcome) : List Event :=
  o.elim [] fun o => sink.heard (some n) (.ended c o) ++ [.settled n o]

/-- Nothing that is known of the dispatch changed. -/
structure Keeps (n : Nat) (p p' : Pipeline σ) : Prop where
  sink : p'.sink = p.sink
  dispatch : p'.dispatches[n]? = p.dispatches[n]?
  calls : p'.callsFor n = p.callsFor n
  events : p'.eventsOf n = p.eventsOf n

theorem Keeps.refl (n : Nat) (p : Pipeline σ) : p.Keeps n p := ⟨rfl, rfl, rfl, rfl⟩

theorem Keeps.trans {n : Nat} {first second third : Pipeline σ} (h₁ : Keeps n first second)
    (h₂ : Keeps n second third) : Keeps n first third :=
  ⟨h₂.sink.trans h₁.sink, h₂.dispatch.trans h₁.dispatch, h₂.calls.trans h₁.calls,
    h₂.events.trans h₁.events⟩

/-! ## Events about a dispatch -/

theorem heard_about (sink : Sink) (n : Nat) (s : Status) :
    (sink.heard (some n) s).filter (·.isAbout n) = sink.heard (some n) s := by
  cases sink <;> simp [Sink.heard, Event.isAbout]

theorem heard_not_about {n : Nat} {m : Option Nat} (h : m ≠ some n) (sink : Sink) (s : Status) :
    (sink.heard m s).filter (·.isAbout n) = [] := by
  cases sink <;> simp [Sink.heard, Event.isAbout, h]

theorem closing_about (sink : Sink) (n : Nat) (c : Command) (o : Option Outcome) :
    (closing sink n c o).filter (·.isAbout n) = closing sink n c o := by
  cases o with
  | none => rfl
  | some o =>
    rw [closing, Option.elim_some, List.filter_append, heard_about]
    simp [Event.isAbout]

theorem keeps_emit {n : Nat} {m : Option Nat} (h : m ≠ some n) (p : Pipeline σ) (s : Status) :
    p.Keeps n (p.emit m s) := by
  rw [emit_eq]
  exact ⟨rfl, rfl, rfl, by simp [eventsOf, heard_not_about h]⟩

theorem eventsOf_emit (p : Pipeline σ) (n : Nat) (s : Status) :
    (p.emit (some n) s).eventsOf n = p.eventsOf n ++ p.sink.heard (some n) s := by
  simp [emit_eq, eventsOf, heard_about]

theorem keeps_settle {n m : Nat} (h : m ≠ n) (p : Pipeline σ) (o : Outcome) :
    p.Keeps n (p.settle m o) := by
  cases hd : p.dispatches[m]? with
  | none =>
    rw [settle, hd]
    exact .refl n p
  | some d =>
    have hother : some m ≠ some n := fun heq => h (Option.some.inj heq)
    rw [settle_eq hd]
    refine ⟨rfl, List.getElem?_modify_ne _ _ h, rfl, ?_⟩
    rw [eventsOf, List.filter_append, List.filter_append, heard_not_about hother]
    simp [eventsOf, Event.isAbout, h]

theorem eventsOf_settle {p : Pipeline σ} {n : Nat} {d : Dispatch} (h : p.dispatches[n]? = some d)
    (o : Outcome) :
    (p.settle n o).eventsOf n = p.eventsOf n ++ closing p.sink n d.command (some o) := by
  rw [← closing_about, settle_eq h]
  simp [eventsOf, closing]

theorem keeps_recordCalls (n : Nat) (p : Pipeline σ) (calls : List DeviceCall) :
    p.Keeps n (p.recordCalls calls) := by
  have hnone : (calls.map Event.called).filter (·.isAbout n) = [] := by
    simp [List.filter_eq_nil_iff, Event.isAbout]
  exact ⟨rfl, rfl, rfl, by simp [eventsOf, hnone]⟩

theorem keeps_pause (n : Nat) (p : Pipeline σ) : p.Keeps n p.pause.2 := by
  rcases p.pause_cases with ⟨f, h⟩ | h | h
  · rw [h]
    exact .refl n p
  · rw [h]
    exact .refl n p
  · rw [h]
    exact ⟨rfl, rfl, rfl, by simp [eventsOf, Event.isAbout]⟩

/-! ## Calls for a dispatch -/

/-- The calls at one capability stand between those at the others. -/
theorem callsFor_replace {p : Pipeline σ} {i : Nat} {before : Capability σ Nat}
    (h : p.fleet[i]? = some before) (n : Nat) :
    ∃ left right, p.callsFor n = left ++ before.gate.calls.filter (·.isFor n) ++ right ∧
      ∀ after, (p.replace i after).callsFor n =
        left ++ after.gate.calls.filter (·.isFor n) ++ right := by
  obtain ⟨hlt, hget⟩ := List.getElem?_eq_some_iff.mp h
  have hfleet : p.fleet = p.fleet.take i ++ before :: p.fleet.drop (i + 1) := by
    rw [← hget, List.getElem_cons_drop, List.take_append_drop]
  refine ⟨(p.fleet.take i).flatMap fun cap => cap.gate.calls.filter (·.isFor n),
    (p.fleet.drop (i + 1)).flatMap fun cap => cap.gate.calls.filter (·.isFor n), ?_, ?_⟩
  · calc p.callsFor n
        = (p.fleet.take i ++ before :: p.fleet.drop (i + 1)).flatMap
            fun cap => cap.gate.calls.filter (·.isFor n) := by rw [← hfleet, callsFor]
      _ = _ := by simp
  · intro after
    rw [callsFor, replace]
    dsimp only
    rw [List.set_eq_take_append_cons_drop, if_pos hlt]
    simp

theorem keeps_replace {p : Pipeline σ} {i n : Nat} {before after : Capability σ Nat}
    (hfound : p.fleet[i]? = some before)
    (hcalls : after.gate.calls.filter (·.isFor n) = before.gate.calls.filter (·.isFor n)) :
    p.Keeps n (p.replace i after) := by
  obtain ⟨left, right, hbefore, hafter⟩ := callsFor_replace hfound n
  exact ⟨rfl, rfl, by rw [hafter, hcalls, hbefore], rfl⟩

theorem keeps_poll (n : Nat) (w : Worker σ) (p : Pipeline σ) : p.Keeps n (p.poll w).2 := by
  unfold poll
  split
  · exact .refl n p
  · split
    · exact .refl n p
    next hfound => exact keeps_replace hfound rfl

theorem keeps_alter (n i : Nat) (st : σ) (ending : Ending) (p : Pipeline σ) :
    p.Keeps n (p.alter i st ending) := by
  unfold alter
  split
  · exact .refl n p
  next hfound => exact keeps_replace hfound rfl

theorem keeps_enlist (n : Nat) (st : σ) (p : Pipeline σ) :
    p.Keeps n (p.enlist { state := st }) := ⟨rfl, rfl, by simp [callsFor, enlist], rfl⟩

@[simp] theorem isFor_resolve (n : Nat) (o : Outcome) (call : Gate.Call Nat) :
    (call.resolve o).isFor n = call.isFor n := rfl

theorem report?_of_isFor {n : Nat} {call : Gate.Call Nat} (h : call.isFor n = true) :
    call.report? = call.outcome.map fun o => (n, o) := by
  obtain ⟨k, hk, rfl⟩ : ∃ k, call.callback = some k ∧ k.target = n := by
    simpa [Gate.Call.isFor, Option.any_eq_true] using h
  simp [Gate.Call.report?, hk]

theorem report?_of_not_isFor {n m : Nat} {call : Gate.Call Nat} {o : Outcome}
    (h : call.isFor n = false) (hreport : call.report? = some (m, o)) : m ≠ n := by
  rintro rfl
  cases hk : call.callback with
  | none => simp [Gate.Call.report?, hk] at hreport
  | some k =>
    have htarget : k.target ≠ m := by simpa [Gate.Call.isFor, hk] using h
    cases ho : call.outcome with
    | none => simp [Gate.Call.report?, hk, ho] at hreport
    | some o' =>
      have hpair : k.target = m ∧ o' = o := by simpa [Gate.Call.report?, hk, ho] using hreport
      exact htarget hpair.1

/-- An answer to the only call of a dispatch leaves it with that call, answered. -/
theorem filter_isFor_modify {calls : List (Gate.Call Nat)} {j n : Nat} {call : Gate.Call Nat}
    (hcall : calls[j]? = some call) (o : Outcome) :
    (call.isFor n = false →
        (calls.modify j (Gate.Call.resolve o)).filter (·.isFor n) = calls.filter (·.isFor n)) ∧
      (call.isFor n = true → ∃ left right,
        calls.filter (·.isFor n) = left ++ call :: right ∧
          (calls.modify j (Gate.Call.resolve o)).filter (·.isFor n) =
            left ++ call.resolve o :: right) := by
  obtain ⟨hlt, hget⟩ := List.getElem?_eq_some_iff.mp hcall
  obtain ⟨before, found, after, hsplit, hlength, hmodify⟩ :=
    List.exists_of_modify (Gate.Call.resolve o) hlt
  obtain rfl : found = call := by
    rw [← hget]
    simp [hsplit, ← hlength]
  rw [hmodify, hsplit]
  refine ⟨fun hother => ?_, fun hfor => ?_⟩
  · simp [hother]
  · exact ⟨before.filter (·.isFor n), after.filter (·.isFor n), by simp [hfor], by simp [hfor]⟩

/-! ## Answers -/

/-- Settle the dispatch that an answer is for, if it is for one. -/
def pass (r : Option (Nat × Outcome)) (p : Pipeline σ) : Pipeline σ :=
  r.elim p fun (n, o) => p.settle n o

theorem advance_eq {before after : Capability σ Nat} {r : Option (Nat × Outcome)}
    (h : after.gate.delivered = before.gate.delivered ++ r.toList) (p : Pipeline σ) (i : Nat) :
    p.advance i before after = (p.replace i after).pass r := by
  rw [advance, h, List.drop_left]
  cases r <;> rfl

@[simp] theorem fleet_pass (r : Option (Nat × Outcome)) (p : Pipeline σ) :
    (p.pass r).fleet = p.fleet := by
  cases r with
  | none => rfl
  | some r => exact fleet_settle _ _ _

theorem keeps_pass {n : Nat} {r : Option (Nat × Outcome)} (h : ∀ m o, r = some (m, o) → m ≠ n)
    (p : Pipeline σ) : p.Keeps n (p.pass r) := by
  cases r with
  | none => exact .refl n p
  | some r => exact keeps_settle (h r.1 r.2 rfl) p r.2

/-- An answer settles the dispatch that it is for, after the sink heard of it. -/
theorem pass_about {p : Pipeline σ} {n : Nat} {d : Dispatch} (hd : p.dispatches[n]? = some d)
    (hnone : d.outcome = none) (o : Option Outcome) :
    let p' := p.pass (o.map fun o => (n, o))
    p'.dispatches[n]? = some { d with outcome := o } ∧
      p'.eventsOf n = p.eventsOf n ++ closing p.sink n d.command o ∧ p'.sink = p.sink := by
  cases o with
  | none =>
    have hsame : { d with outcome := none } = d := by rw [← hnone]
    exact ⟨by rw [hsame]; exact hd, (List.append_nil _).symm, rfl⟩
  | some o =>
    refine ⟨?_, eventsOf_settle hd o, (grows_settle p n o).sink⟩
    simp [pass, settle_eq hd, hd]

section

variable {p : Pipeline σ} {i n : Nat} {before after : Capability σ Nat}

/-- A call that is made for no dispatch, or for another one. -/
theorem keeps_advance_makes {call : Gate.Call Nat} (hfound : p.fleet[i]? = some before)
    (h : before.gate.Makes after.gate call) (hother : call.isFor n = false) :
    p.Keeps n (p.advance i before after) := by
  rw [advance_eq h.delivered]
  have hreplace : p.Keeps n (p.replace i after) :=
    keeps_replace hfound (by simp [h.calls, hother])
  exact hreplace.trans (keeps_pass (fun _ _ => report?_of_not_isFor hother) _)

/-- The call that a dispatch waited for. -/
theorem advance_makes {call : Gate.Call Nat} {d : Dispatch} (hfound : p.fleet[i]? = some before)
    (h : before.gate.Makes after.gate call) (hfor : call.isFor n = true)
    (hd : p.dispatches[n]? = some d) (hnone : d.outcome = none) (hcalls : p.callsFor n = []) :
    let p' := p.advance i before after
    p'.dispatches[n]? = some { d with outcome := call.outcome } ∧ p'.callsFor n = [call] ∧
      p'.eventsOf n = p.eventsOf n ++ closing p.sink n d.command call.outcome ∧
      p'.sink = p.sink := by
  obtain ⟨left, right, hbefore, hafter⟩ := callsFor_replace hfound n
  rw [hcalls, eq_comm, List.append_eq_nil_iff, List.append_eq_nil_iff] at hbefore
  obtain ⟨⟨rfl, hold⟩, rfl⟩ := hbefore
  obtain ⟨hdispatch, hevents, hsink⟩ :=
    pass_about (p := p.replace i after) hd hnone call.outcome
  rw [advance_eq h.delivered, report?_of_isFor hfor]
  refine ⟨hdispatch, ?_, hevents, hsink⟩
  rw [callsFor, fleet_pass, ← callsFor, hafter, h.calls]
  simp [hold, hfor]

theorem isFor_of_request {call : Gate.Call Nat} {s : Submission} {m : Nat}
    (h : call.request = (s, some (.to m))) : call.isFor n = (m == n) := by
  have hcallback : call.callback = some (.to m) := congrArg Prod.snd h
  simp [Gate.Call.isFor, hcallback, Gate.Callback.to]

/-- The dispatch that is handed over gets its call, with the answer if there is one. -/
theorem handOver_about (w : Worker σ) (hfound : p.fleet[i]? = some before)
    (hreachable : before.gate.Reachable) {c : Command}
    (hd : p.dispatches[n]? = some ⟨c, false, none⟩) (hcalls : p.callsFor n = []) :
    let p' := p.handOver w i n c
    ∃ call : Gate.Call Nat, call.submission = .command c ∧
      p'.dispatches[n]? = some ⟨c, true, call.outcome⟩ ∧ p'.callsFor n = [call] ∧
      p'.eventsOf n = p.eventsOf n ++ closing p.sink n c call.outcome ∧ p'.sink = p.sink := by
  obtain ⟨call, hrequest, hmakes⟩ :=
    Capability.makes_submit w hreachable (.command c) (some (.to n))
  have hfor : call.isFor n = true := by simp [isFor_of_request hrequest]
  rw [Pipeline.handOver, hfound]
  dsimp only
  generalize Capability.submit w _ _ _ = answer at hmakes
  obtain ⟨calls, after⟩ := answer
  -- the mark and the calls of the device change nothing that the answer depends on
  have hrecorded := keeps_recordCalls n (p.markHandedOver n) calls
  have hmarked : ((p.markHandedOver n).recordCalls calls).dispatches[n]? =
      some ⟨c, true, none⟩ := by simp [recordCalls, markHandedOver, hd]
  obtain ⟨hdispatch, honly, hevents, hsink⟩ := advance_makes
    (p := (p.markHandedOver n).recordCalls calls) hfound hmakes hfor hmarked rfl hcalls
  refine ⟨call, congrArg Prod.fst hrequest, hdispatch, honly, ?_, hsink⟩
  rw [hevents, hrecorded.events]
  rfl

theorem keeps_handOver (w : Worker σ) (hfound : p.fleet[i]? = some before)
    (hreachable : before.gate.Reachable) {m : Nat} (hm : m ≠ n) (c : Command) :
    p.Keeps n (p.handOver w i m c) := by
  obtain ⟨call, hrequest, hmakes⟩ :=
    Capability.makes_submit w hreachable (.command c) (some (.to m))
  have hother : call.isFor n = false := by simp [isFor_of_request hrequest, hm]
  have hmark : p.Keeps n (p.markHandedOver m) :=
    ⟨rfl, List.getElem?_modify_ne _ _ hm, rfl, rfl⟩
  rw [Pipeline.handOver, hfound]
  exact (hmark.trans (keeps_recordCalls n _ _)).trans (keeps_advance_makes hfound hmakes hother)

/-- Whoever calls on their own account is not called back for a dispatch. -/
theorem keeps_callAside (w : Worker σ) (hreachable : ∀ cap ∈ p.fleet, cap.gate.Reachable)
    (i n : Nat) (s : Submission) : p.Keeps n (p.callAside w i s) := by
  unfold callAside
  split
  · exact .refl n p
  next before hfound =>
    obtain ⟨call, hrequest, hmakes⟩ :=
      Capability.makes_submit w (hreachable before (List.mem_of_getElem? hfound)) s none
    have hcallback : call.callback = none := congrArg Prod.snd hrequest
    have hother : call.isFor n = false := by simp [Gate.Call.isFor, hcallback]
    exact (keeps_recordCalls n _ _).trans (keeps_advance_makes hfound hmakes hother)

/-- A capability that goes on leaves a dispatch alone, or answers the call for it. -/
theorem advance_ends (hfound : p.fleet[i]? = some before) (h : before.gate.Ends after.gate)
    (n : Nat) :
    p.Keeps n (p.advance i before after) ∨
      ∃ call o, call.outcome = none ∧ call ∈ p.callsFor n ∧
        ∀ d, p.dispatches[n]? = some d → d.outcome = none → p.callsFor n = [call] →
          let p' := p.advance i before after
          p'.dispatches[n]? = some { d with outcome := some o } ∧
            p'.callsFor n = [call.resolve o] ∧
            p'.eventsOf n = p.eventsOf n ++ closing p.sink n d.command (some o) ∧
            p'.sink = p.sink := by
  cases h with
  | none hcalls hdelivered =>
    left
    rw [advance_eq (r := none) (by simpa using hdelivered)]
    exact keeps_replace hfound (by rw [hcalls])
  | one j call o hcall hnone hcalls hdelivered =>
    obtain ⟨hkept, hanswered⟩ := filter_isFor_modify (n := n) hcall o
    rw [advance_eq hdelivered]
    cases hfor : call.isFor n with
    | false =>
      left
      have hreplace : p.Keeps n (p.replace i after) :=
        keeps_replace hfound (by rw [hcalls, hkept hfor])
      have hother : (call.resolve o).isFor n = false := hfor
      exact hreplace.trans (keeps_pass (fun _ _ => report?_of_not_isFor hother) _)
    | true =>
      right
      obtain ⟨left, right, hbefore, hafter⟩ := callsFor_replace hfound n
      obtain ⟨left', right', hold, hnew⟩ := hanswered hfor
      refine ⟨call, o, hnone, by simp [hbefore, hold], fun d hd hopen honly => ?_⟩
      -- it is the only call for the dispatch, so no other stands beside it anywhere
      obtain ⟨⟨rfl, rfl⟩, rfl, rfl⟩ :
          (left = [] ∧ left' = []) ∧ right' = [] ∧ right = [] := by
        rw [hbefore, hold] at honly
        have hlength := congrArg List.length honly
        simp only [List.length_append, List.length_cons, List.length_nil] at hlength
        refine ⟨⟨?_, ?_⟩, ?_, ?_⟩ <;> exact List.eq_nil_of_length_eq_zero (by omega)
      obtain ⟨hdispatch, hevents, hsink⟩ :=
        pass_about (p := p.replace i after) hd hopen (some o)
      have hstill : (call.resolve o).isFor n = true := hfor
      rw [report?_of_isFor hstill]
      refine ⟨hdispatch, ?_, hevents, hsink⟩
      rw [callsFor, fleet_pass, ← callsFor, hafter, hcalls, hnew]
      simp

end

end Pipeline

end GestureScript
