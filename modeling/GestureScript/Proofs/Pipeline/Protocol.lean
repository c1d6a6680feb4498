import GestureScript.Proofs.Pipeline.Client

/-!
# The status protocol

What a sink hears of the dispatches at a pipeline, over every run of moves: one failure,
or that the command was handed over and then at most one outcome. The outcome is what the
capability answered, and the dispatch is settled with it after the sink heard of it.
-/

set_option autoImplicit false

namespace GestureScript

/-- The status tells of that outcome of the command. -/
structure Status.Describes (s : Status) (c : Command) (o : Outcome) : Prop where
  display : s.display = some c.display
  succeeded : s.kind = .succeeded ↔ o.isSuccess = true
  failed : s.kind = .failed ↔ o.isFailure = true
  errorKind : s.errorKind = o.errorKind?

theorem Status.describes_ended (c : Command) (o : Outcome) : (Status.ended c o).Describes c o := by
  cases o with
  | success s => refine ⟨rfl, ?_, ?_, rfl⟩ <;> simp [ended, Outcome.isSuccess]
  | failure f => refine ⟨rfl, ?_, ?_, rfl⟩ <;> simp [ended, Outcome.isSuccess]

namespace Pipeline

variable {σ : Type}

/-- Would a dispatch find a capability that is ready? -/
def isReady (w : Worker σ) (p : Pipeline σ) : Bool := (p.poll w).1.isSome

theorem poll_addDispatch (w : Worker σ) (c : Command) (p : Pipeline σ) :
    ((p.addDispatch c).poll w).1 = (p.poll w).1 := by
  have hattached : (p.addDispatch c).attached = p.attached := rfl
  have hfleet : (p.addDispatch c).fleet = p.fleet := rfl
  unfold poll
  rw [hattached, hfleet]
  cases p.attached with
  | none => rfl
  | some i =>
    dsimp only
    cases p.fleet[i]? <;> rfl

namespace Traffic

/-- A pipeline that nothing has happened at. -/
def new (settings : Settings) (monitor : Monitor) (sink : Sink)
    (pauseFault? : Binary64 → Option Fault) : Traffic σ where
  pipeline :=
    { settings := settings, monitor := monitor, sink := sink, pauseFault? := pauseFault? }

theorem orderly_new (settings : Settings) (monitor : Monitor) (sink : Sink)
    (pauseFault? : Binary64 → Option Fault) :
    Orderly (new settings monitor sink pauseFault? : Traffic σ) where
  reachable := by simp [new]
  waiting := by simp [new]
  stands n := .toCome rfl rfl rfl rfl rfl

/-! ## Looks -/

theorem looks_ask (w : Worker σ) (c : Command) (t : Traffic σ) :
    (t.ask w c).looks = t.looks ++ [t.pipeline.isReady w] := by
  cases hready : ((t.pipeline.addDispatch c).poll w).1 with
  | none =>
    rw [ask_of_none hready, isReady, ← poll_addDispatch w c, hready]
    rfl
  | some i =>
    rw [ask_of_some hready, isReady, ← poll_addDispatch w c, hready]
    rfl

/-- Each dispatch looks once for a capability. -/
theorem looks_step (w : Worker σ) (t : Traffic σ) (m : Move σ) :
    (t.step w m).looks = t.looks ++
      ((m.command? t.pipeline.settings).map fun _ => t.pipeline.isReady w).toList := by
  cases m with
  | ask c => exact looks_ask w c t
  | askLine line =>
    rw [step, askLine, Move.command?]
    cases Command.ofLine? t.pipeline.settings line.toList with
    | some c => exact looks_ask w c t
    | none => exact (List.append_nil _).symm
  | handOver n =>
    rw [step, handOver]
    split <;> exact (List.append_nil _).symm
  | _ => exact (List.append_nil _).symm

theorem looks_prefix_run (w : Worker σ) (t : Traffic σ) (moves : List (Move σ)) :
    t.looks <+: (t.run w moves).looks := by
  induction moves generalizing t with
  | nil => exact List.prefix_refl _
  | cons m moves ih =>
    have hstep : t.looks <+: (t.step w m).looks := by
      rw [looks_step]
      exact List.prefix_append _ _
    exact hstep.trans (ih _)

/-! ## One dispatch -/

/-- The sink hears nothing of a dispatch but that it is dispatched and what it came to. -/
theorem Reported.told {t : Traffic σ} {n : Nat} {c : Command} {ready : Bool}
    (h : t.Reported n c ready) {s : Status} (hs : .told (some n) s ∈ t.pipeline.trace) :
    s = .dispatched c ∨ ∃ o, t.outcome? n = some o ∧ s.Describes c o := by
  have hevent : .told (some n) s ∈ t.pipeline.eventsOf n := by
    simp [eventsOf, hs, Event.isAbout]
  have closed {o : Outcome} (ho : t.outcome? n = some o)
      (hin : .told (some n) s ∈ closing t.pipeline.sink n c (some o)) :
      ∃ o, t.outcome? n = some o ∧ s.Describes c o := by
    obtain rfl : s = .ended c o := by
      cases hsink : t.pipeline.sink with
      | absent => simp [closing, Sink.heard, hsink] at hin
      | listening fails => simpa [closing, Sink.heard, hsink] using hin
    exact ⟨o, ho, Status.describes_ended c o⟩
  have opened (hin : .told (some n) s ∈ t.pipeline.sink.heard (some n) (.dispatched c)) :
      s = .dispatched c := by
    cases mem_heard_some hin
    rfl
  cases h with
  | turnedAway _ hd _ he =>
    rw [he] at hevent
    exact .inr (closed (by simp [outcome?, hd]) hevent)
  | waiting i _ _ _ he =>
    rw [he] at hevent
    exact .inl (opened hevent)
  | handedOver call _ hd _ _ he =>
    rw [he] at hevent
    rcases List.mem_append.mp hevent with hin | hin
    · exact .inl (opened hin)
    · right
      cases ho : call.outcome with
      | none =>
        rw [ho] at hin
        cases hin
      | some o =>
        rw [ho] at hin
        exact closed (by simp [outcome?, hd, ho]) hin

/-- A dispatch that was asked for got its number and made its look then, and stands well now. -/
theorem Orderly.reported_run {t : Traffic σ} (h : t.Orderly) (w : Worker σ) {m : Move σ}
    {c : Command} (hm : m.command? t.pipeline.settings = some c) (after : List (Move σ)) :
    ((t.step w m).run w after).Reported t.pipeline.dispatches.length c (t.pipeline.isReady w) := by
  obtain ⟨_, hlooks, _, _⟩ := h.toCome
  have hcommand : (((t.step w m).run w after).pipeline.dispatches.map (·.command))[
      t.pipeline.dispatches.length]? = some c := by
    rw [commands_run, commands_step, hm]
    simp
  have hlook : ((t.step w m).run w after).looks[t.pipeline.dispatches.length]? =
      some (t.pipeline.isReady w) := by
    obtain ⟨more, hmore⟩ := looks_prefix_run w (t.step w m) after
    rw [← hmore, looks_step, hm, ← hlooks]
    simp
  rw [List.getElem?_map] at hcommand
  cases ((h.step w m).run w after).stands t.pipeline.dispatches.length with
  | toCome _ _ hd => simp [hd] at hcommand
  | begun c' ready hl hreported =>
    have hready : ready = t.pipeline.isReady w := Option.some.inj (hl.symm.trans hlook)
    have hsame : c' = c := by
      cases hreported with
      | turnedAway _ hd => simpa [hd] using hcommand
      | waiting _ _ hd => simpa [hd] using hcommand
      | handedOver _ _ hd => simpa [hd] using hcommand
    rwa [hready, hsame] at hreported

end Traffic

end Pipeline

end GestureScript
