import GestureScript.Proofs.Pipeline.Fleet
import GestureScript.Proofs.Pipeline.Traffic

/-!
# What every move keeps

A move leaves the settings and the sink alone, and adds to what was observed. A dispatch
comes only of a move that asks for it, a line is told only by a move that has it, and only
a move that pauses pauses.
-/

set_option autoImplicit false

namespace GestureScript.Pipeline

variable {σ : Type}

/-- Is it told of a line that is no command? -/
def Event.isOfLine : Event → Bool
  | .told none _ => true
  | _ => false

def Event.isPause : Event → Bool
  | .paused _ => true
  | _ => false

/-- Does it come of a dispatch, or of a call? -/
def Event.isWork (e : Event) : Bool := !e.isOfLine && !e.isPause

/-- What a pipeline has from the start. -/
def setup (p : Pipeline σ) : Settings × Sink × (Binary64 → Option Fault) :=
  (p.settings, p.sink, p.pauseFault?)

/-- The pipeline went on with what it has, without a new dispatch, a line or a pause. -/
structure Grows (p p' : Pipeline σ) : Prop where
  setup : p'.setup = p.setup
  commands : p'.dispatches.map (·.command) = p.dispatches.map (·.command)
  fleet : p.Evolves p'
  trace : ∃ more, p'.trace = p.trace ++ more ∧ ∀ e ∈ more, e.isWork = true

theorem Grows.refl (p : Pipeline σ) : p.Grows p :=
  ⟨rfl, rfl, evolves_of_fleet_eq rfl, [], by simp⟩

theorem Grows.trans {first second third : Pipeline σ} (h₁ : first.Grows second)
    (h₂ : second.Grows third) : first.Grows third := by
  obtain ⟨more₁, htrace₁, hmore₁⟩ := h₁.trace
  obtain ⟨more₂, htrace₂, hmore₂⟩ := h₂.trace
  refine ⟨h₂.setup.trans h₁.setup, h₂.commands.trans h₁.commands, h₁.fleet.trans h₂.fleet,
    more₁ ++ more₂, ?_, ?_⟩
  · rw [htrace₂, htrace₁, List.append_assoc]
  · intro e he
    exact (List.mem_append.mp he).elim (hmore₁ e) (hmore₂ e)

theorem Grows.sink {p p' : Pipeline σ} (h : p.Grows p') : p'.sink = p.sink :=
  congrArg (·.2.1) h.setup

theorem Grows.length_eq {p p' : Pipeline σ} (h : p.Grows p') :
    p'.dispatches.length = p.dispatches.length := by
  simpa using congrArg List.length h.commands

theorem mem_heard_some {sink : Sink} {n : Nat} {s : Status} {e : Event}
    (he : e ∈ sink.heard (some n) s) : e = .told (some n) s := by
  cases sink <;> simp [Sink.heard] at he
  exact he

theorem grows_emit (p : Pipeline σ) (n : Nat) (s : Status) : p.Grows (p.emit (some n) s) := by
  rw [emit_eq]
  refine ⟨rfl, rfl, evolves_of_fleet_eq rfl, _, rfl, fun e he => ?_⟩
  rw [mem_heard_some he]
  rfl

theorem commands_modify {f : Dispatch → Dispatch} (hf : ∀ d, (f d).command = d.command)
    (ds : List Dispatch) (n : Nat) :
    (ds.modify n f).map (·.command) = ds.map (·.command) := by
  induction ds generalizing n with
  | nil => simp
  | cons d ds ih => cases n <;> simp [hf, ih]

theorem grows_settle (p : Pipeline σ) (n : Nat) (o : Outcome) : p.Grows (p.settle n o) := by
  cases hd : p.dispatches[n]? with
  | none =>
    rw [settle, hd]
    exact .refl p
  | some d =>
    rw [settle_eq hd, List.append_assoc]
    refine ⟨rfl, ?_, evolves_of_fleet_eq rfl, _, rfl, fun e he => ?_⟩
    · exact commands_modify (by simp) _ _
    · rcases List.mem_append.mp he with he | he
      · rw [mem_heard_some he]
        rfl
      · rw [List.mem_singleton.mp he]
        rfl

section

variable {p : Pipeline σ} {i : Nat} {before after : Capability σ Nat}

theorem grows_replace (hfound : p.fleet[i]? = some before)
    (hruns : before.gate.RunsTo after.gate) : p.Grows (p.replace i after) :=
  ⟨rfl, rfl, evolves_set hfound hruns rfl, [], by simp [replace]⟩

/-- What a capability delivered settles dispatches that there are already. -/
theorem grows_advance (hfound : p.fleet[i]? = some before)
    (hruns : before.gate.RunsTo after.gate) : p.Grows (p.advance i before after) := by
  refine (grows_replace hfound hruns).trans ?_
  rw [advance]
  generalize p.replace i after = q
  generalize List.drop _ _ = reports
  induction reports generalizing q with
  | nil => exact .refl q
  | cons r reports ih => exact (grows_settle q r.1 r.2).trans (ih _)

end

theorem grows_recordCalls (p : Pipeline σ) (calls : List DeviceCall) :
    p.Grows (p.recordCalls calls) := by
  refine ⟨rfl, rfl, evolves_of_fleet_eq rfl, _, rfl, fun e he => ?_⟩
  obtain ⟨c, _, rfl⟩ := List.mem_map.mp he
  rfl

theorem grows_poll (w : Worker σ) (p : Pipeline σ) : p.Grows (p.poll w).2 := by
  unfold poll
  split
  · exact .refl p
  · split
    · exact .refl p
    next cap hfound => exact grows_replace hfound (by exact .refl cap.gate)

theorem grows_handOver (w : Worker σ) (i n : Nat) (c : Command) (p : Pipeline σ) :
    p.Grows (p.handOver w i n c) := by
  have hmarked : p.Grows (p.markHandedOver n) :=
    ⟨rfl, commands_modify (by simp) _ _, evolves_of_fleet_eq rfl, [], by simp [markHandedOver]⟩
  unfold handOver
  split
  · exact .refl p
  next before hfound =>
    exact (hmarked.trans (grows_recordCalls _ _)).trans
      (grows_advance hfound (Capability.runsTo_submit w _ _ before))

theorem grows_callAside (w : Worker σ) (i : Nat) (s : Submission) (p : Pipeline σ) :
    p.Grows (p.callAside w i s) := by
  unfold callAside
  split
  · exact .refl p
  next before hfound =>
    exact (grows_recordCalls _ _).trans
      (grows_advance hfound (Capability.runsTo_submit w _ _ before))

theorem grows_letGo (p : Pipeline σ) (i : Nat) : p.Grows (p.letGo i) := by
  unfold letGo
  split
  · exact .refl p
  next cap hfound => exact grows_advance hfound cap.runsTo_letGo

theorem grows_stop (p : Pipeline σ) (i : Nat) : p.Grows (p.stop i) := by
  unfold stop
  split
  · exact .refl p
  next cap hfound => exact grows_advance hfound cap.runsTo_shutDown

theorem shutDown_eq (p : Pipeline σ) :
    let stopped := p.attached.elim p fun i => p.stop i
    p.shutDown = { stopped with monitor := stopped.monitor.reset } := by
  cases hattached : p.attached with
  | none => simp [shutDown, hattached]
  | some i => cases hfound : p.fleet[i]? <;> simp [shutDown, stop, hattached, hfound]

theorem grows_shutDown (p : Pipeline σ) : p.Grows p.shutDown := by
  rw [shutDown_eq]
  have hstopped : p.Grows (p.attached.elim p fun i => p.stop i) := by
    cases p.attached with
    | none => exact .refl p
    | some i => exact grows_stop p i
  exact ⟨hstopped.setup, hstopped.commands, hstopped.fleet.trans (evolves_of_fleet_eq rfl),
    hstopped.trace⟩

theorem exists_pause (p : Pipeline σ) :
    ∃ more, p.pause.2 = { p with trace := p.trace ++ more } ∧ ∀ e ∈ more, e.isPause = true := by
  rcases p.pause_cases with ⟨f, h⟩ | h | h
  · exact ⟨[], by simp [h], by simp⟩
  · exact ⟨[], by simp [h], by simp⟩
  · exact ⟨[.paused p.settings.commandDelay], by rw [h]; rfl, by simp [Event.isPause]⟩

theorem grows_alter (p : Pipeline σ) (i : Nat) (st : σ) (ending : Ending) :
    p.Grows (p.alter i st ending) := by
  unfold alter
  split
  · exact .refl p
  next cap hfound => exact grows_replace hfound (by exact .refl cap.gate)

namespace Traffic

theorem grows_ask (w : Worker σ) (c : Command) (t : Traffic σ) :
    (t.pipeline.addDispatch c).Grows (t.ask w c).pipeline := by
  have hpoll := grows_poll w (t.pipeline.addDispatch c)
  unfold ask
  dsimp only
  split
  next p heq =>
    rw [heq] at hpoll
    exact hpoll.trans (grows_settle p _ _)
  next i p heq =>
    rw [heq] at hpoll
    exact hpoll.trans (grows_emit p _ _)

/-- A move asks for a dispatch, or has a line that is no command, or pauses, or goes on with
what was asked for before. -/
theorem step_cases (w : Worker σ) (t : Traffic σ) (m : Move σ) :
    (∃ c, m.command? t.pipeline.settings = some c ∧ m.strayLine? t.pipeline.settings = none ∧
        t.step w m = t.ask w c) ∨
      (∃ line, m.command? t.pipeline.settings = none ∧
        m.strayLine? t.pipeline.settings = some line ∧
        t.step w m = { t with pipeline := t.pipeline.emit none (.notUnderstood line) }) ∨
      (m = .pause ∧ ∃ more,
        t.step w m = { t with pipeline := { t.pipeline with trace := t.pipeline.trace ++ more } } ∧
          ∀ e ∈ more, e.isPause = true) ∨
      (m.command? t.pipeline.settings = none ∧ m.strayLine? t.pipeline.settings = none ∧
        t.pipeline.Grows (t.step w m).pipeline) := by
  cases m with
  | ask c => exact .inl ⟨c, rfl, rfl, rfl⟩
  | askLine line =>
    cases hread : Command.ofLine? t.pipeline.settings line.toList with
    | some c =>
      exact .inl ⟨c, hread, by simp [Move.strayLine?, hread], by simp [step, askLine, hread]⟩
    | none =>
      exact .inr (.inl ⟨line, hread, by simp [Move.strayLine?, hread],
        by simp [step, askLine, hread]⟩)
  | pause =>
    obtain ⟨more, hpause, hmore⟩ := t.pipeline.exists_pause
    exact .inr (.inr (.inl ⟨rfl, more, by rw [step, hpause], hmore⟩))
  | handOver n =>
    refine .inr (.inr (.inr ⟨rfl, rfl, ?_⟩))
    rw [step, handOver]
    split
    · exact grows_handOver _ _ _ _ _
    · exact .refl _
  | create st =>
    refine .inr (.inr (.inr ⟨rfl, rfl, rfl, rfl, evolves_enlist st _, [], ?_, ?_⟩)) <;>
      simp [step, enlist]
  | attach i =>
    refine .inr (.inr (.inr ⟨rfl, rfl, rfl, rfl, evolves_of_fleet_eq rfl, [], ?_, ?_⟩)) <;>
      simp [step, reattach]
  | callAside i s => exact .inr (.inr (.inr ⟨rfl, rfl, grows_callAside _ _ _ _⟩))
  | alter i st ending => exact .inr (.inr (.inr ⟨rfl, rfl, grows_alter _ _ _ _⟩))
  | letGo i => exact .inr (.inr (.inr ⟨rfl, rfl, grows_letGo _ _⟩))
  | stop i => exact .inr (.inr (.inr ⟨rfl, rfl, grows_stop _ _⟩))
  | shutDown => exact .inr (.inr (.inr ⟨rfl, rfl, grows_shutDown _⟩))

theorem setup_step (w : Worker σ) (t : Traffic σ) (m : Move σ) :
    (t.step w m).pipeline.setup = t.pipeline.setup := by
  rcases t.step_cases w m with
    ⟨c, _, _, hstep⟩ | ⟨line, _, _, hstep⟩ | ⟨_, more, hstep, _⟩ | ⟨_, _, hgrows⟩
  · rw [hstep]
    exact (t.grows_ask w c).setup
  · rw [hstep, emit_eq]
    rfl
  · rw [hstep]
    rfl
  · exact hgrows.setup

/-- Every move that asks for a dispatch gets one, after those before it. -/
theorem commands_step (w : Worker σ) (t : Traffic σ) (m : Move σ) :
    (t.step w m).pipeline.dispatches.map (·.command) =
      t.pipeline.dispatches.map (·.command) ++ (m.command? t.pipeline.settings).toList := by
  rcases t.step_cases w m with
    ⟨c, hc, _, hstep⟩ | ⟨line, hc, _, hstep⟩ | ⟨rfl, more, hstep, _⟩ | ⟨hc, _, hgrows⟩
  · rw [hstep, (t.grows_ask w c).commands, hc]
    simp [addDispatch]
  · rw [hstep, hc]
    simp
  · rw [hstep]
    simp [Move.command?]
  · rw [hgrows.commands, hc]
    simp

/-- What was observed before stays, and the new events are of one kind. -/
theorem trace_step (w : Worker σ) (t : Traffic σ) (m : Move σ) :
    ∃ more, (t.step w m).pipeline.trace = t.pipeline.trace ++ more ∧
      (m ≠ .pause → more.filter Event.isPause = []) ∧
      more.filter Event.isOfLine = (m.strayLine? t.pipeline.settings).toList.flatMap
        fun line => t.pipeline.sink.heard none (.notUnderstood line) := by
  have work {more : List Event} (h : ∀ e ∈ more, e.isWork = true) :
      more.filter Event.isPause = [] ∧ more.filter Event.isOfLine = [] := by
    have heach : ∀ e ∈ more, e.isOfLine = false ∧ e.isPause = false :=
      fun e he => by simpa [Event.isWork] using h e he
    exact ⟨List.filter_eq_nil_iff.mpr fun e he => by simp [heach e he],
      List.filter_eq_nil_iff.mpr fun e he => by simp [heach e he]⟩
  rcases t.step_cases w m with
    ⟨c, _, hline, hstep⟩ | ⟨line, _, hline, hstep⟩ | ⟨rfl, more, hstep, hmore⟩ | ⟨_, hline, hgrows⟩
  · obtain ⟨more, htrace, hmore⟩ := (t.grows_ask w c).trace
    rw [hstep, hline]
    exact ⟨more, htrace, fun _ => (work hmore).1, (work hmore).2⟩
  · refine ⟨t.pipeline.sink.heard none (.notUnderstood line), by rw [hstep, emit_eq], ?_, ?_⟩
    · intro _
      cases t.pipeline.sink <;> simp [Sink.heard, Event.isPause]
    · rw [hline]
      cases t.pipeline.sink <;> simp [Sink.heard, Event.isOfLine]
  · refine ⟨more, by rw [hstep], fun h => absurd rfl h, ?_⟩
    refine List.filter_eq_nil_iff.mpr fun e he => ?_
    have hpause := hmore e he
    cases e <;> simp_all [Event.isPause, Event.isOfLine]
  · obtain ⟨more, htrace, hmore⟩ := hgrows.trace
    rw [hline]
    exact ⟨more, htrace, fun _ => (work hmore).1, (work hmore).2⟩

theorem evolves_step (w : Worker σ) (t : Traffic σ) (m : Move σ) :
    t.pipeline.Evolves (t.step w m).pipeline := by
  rcases t.step_cases w m with
    ⟨c, _, _, hstep⟩ | ⟨line, _, _, hstep⟩ | ⟨_, more, hstep, _⟩ | ⟨_, _, hgrows⟩
  · have hadd : t.pipeline.Evolves (t.pipeline.addDispatch c) := evolves_of_fleet_eq rfl
    rw [hstep]
    exact hadd.trans (t.grows_ask w c).fleet
  · rw [hstep]
    exact evolves_of_fleet_eq (fleet_emit _ _ _)
  · rw [hstep]
    exact evolves_of_fleet_eq rfl
  · exact hgrows.fleet

/-- Others ask for no dispatch and hand none over. -/
theorem aside_step {m : Move σ} (h : m.isAside = true) (w : Worker σ) (t : Traffic σ) :
    (t.step w m).waiting = t.waiting ∧ m.command? t.pipeline.settings = none := by
  cases m <;> first | exact ⟨rfl, rfl⟩ | simp [Move.isAside] at h

/-! ## Runs -/

theorem setup_run (w : Worker σ) (t : Traffic σ) (moves : List (Move σ)) :
    (t.run w moves).pipeline.setup = t.pipeline.setup := by
  induction moves generalizing t with
  | nil => rfl
  | cons m moves ih => rw [run_cons, ih, setup_step]

theorem settings_run (w : Worker σ) (t : Traffic σ) (moves : List (Move σ)) :
    (t.run w moves).pipeline.settings = t.pipeline.settings := congrArg (·.1) (setup_run w t moves)

theorem sink_run (w : Worker σ) (t : Traffic σ) (moves : List (Move σ)) :
    (t.run w moves).pipeline.sink = t.pipeline.sink := congrArg (·.2.1) (setup_run w t moves)

/-- There is one dispatch for each command that was asked for, in that order. -/
theorem commands_run (w : Worker σ) (t : Traffic σ) (moves : List (Move σ)) :
    (t.run w moves).pipeline.dispatches.map (·.command) =
      t.pipeline.dispatches.map (·.command) ++
        moves.filterMap (Move.command? t.pipeline.settings) := by
  induction moves generalizing t with
  | nil => simp
  | cons m moves ih =>
    have hsettings := settings_run w t [m]
    rw [run_cons, run_nil] at hsettings
    rw [run_cons, ih, commands_step, hsettings, List.append_assoc]
    cases h : m.command? t.pipeline.settings <;> simp [h]

theorem aside_run {moves : List (Move σ)} (h : ∀ m ∈ moves, m.isAside = true) (w : Worker σ)
    (t : Traffic σ) :
    (t.run w moves).waiting = t.waiting ∧
      (t.run w moves).pipeline.dispatches.length = t.pipeline.dispatches.length := by
  induction moves generalizing t with
  | nil => exact ⟨rfl, rfl⟩
  | cons m moves ih =>
    obtain ⟨hm, hmoves⟩ := List.forall_mem_cons.mp h
    obtain ⟨hwaiting, hcommand⟩ := aside_step hm w t
    obtain ⟨hwaiting', hlength⟩ := ih hmoves (t.step w m)
    have hcommands := congrArg List.length (commands_step w t m)
    rw [hcommand] at hcommands
    refine ⟨hwaiting'.trans hwaiting, hlength.trans ?_⟩
    simpa using hcommands

/-- The sink hears once of every line that is no command, and of no other line. -/
theorem lines_run (w : Worker σ) (t : Traffic σ) (moves : List (Move σ)) :
    (t.run w moves).pipeline.trace.filter Event.isOfLine =
      t.pipeline.trace.filter Event.isOfLine ++
        (moves.filterMap (Move.strayLine? t.pipeline.settings)).flatMap
          fun line => t.pipeline.sink.heard none (.notUnderstood line) := by
  induction moves generalizing t with
  | nil => simp
  | cons m moves ih =>
    obtain ⟨more, htrace, _, hlines⟩ := t.trace_step w m
    have hsettings := settings_run w t [m]
    have hsink := sink_run w t [m]
    rw [run_cons, run_nil] at hsettings hsink
    rw [run_cons, ih, htrace, List.filter_append, hlines, hsettings, hsink, List.append_assoc]
    cases h : m.strayLine? t.pipeline.settings <;> simp [h]

theorem evolves_run (w : Worker σ) (t : Traffic σ) (moves : List (Move σ)) :
    t.pipeline.Evolves (t.run w moves).pipeline := by
  induction moves generalizing t with
  | nil => exact evolves_of_fleet_eq rfl
  | cons m moves ih => exact (t.evolves_step w m).trans (ih _)

theorem trace_run (w : Worker σ) (t : Traffic σ) (moves : List (Move σ)) :
    t.pipeline.trace <+: (t.run w moves).pipeline.trace := by
  induction moves generalizing t with
  | nil => exact List.prefix_refl _
  | cons m moves ih =>
    obtain ⟨more, htrace, _⟩ := t.trace_step w m
    exact List.IsPrefix.trans ⟨more, htrace.symm⟩ (ih _)

end Traffic

end GestureScript.Pipeline
