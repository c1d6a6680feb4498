import GestureScript.Proofs.Pipeline.Legs

/-!
# The account of a run

A run of commands adds dispatches, and tells the sink of these and of nothing else. What the
run returns can be read off the dispatches, and so can the statuses that the sink heard. So
the two agree on what succeeded and what failed, as long as each dispatch was settled when
the run took stock of it.
-/

set_option autoImplicit false

namespace GestureScript.Pipeline

variable {σ : Type}

/-- What a listening sink hears of a dispatch. -/
def Dispatch.statuses (d : Dispatch) : List Status :=
  (if d.handedOver then [.dispatched d.command] else []) ++
    (d.outcome.map (Status.ended d.command)).toList

def Dispatch.succeeded (d : Dispatch) : Bool := d.outcome.any (·.isSuccess)

/-- What a run takes a dispatch to have come to. -/
def Dispatch.verdict (limit : Binary64) (d : Dispatch) : Outcome :=
  d.outcome.getD (timedOut limit)

theorem Dispatch.isSuccess_verdict (limit : Binary64) (d : Dispatch) :
    (d.verdict limit).isSuccess = d.succeeded := by
  rw [verdict, succeeded]
  cases d.outcome <;> rfl

/-- Every call at a capability has its answer. -/
def Answered (p : Pipeline σ) : Prop :=
  ∀ cap ∈ p.fleet, ∀ call ∈ cap.gate.calls, call.outcome.isSome

/-- From one state to the other some dispatches were made, and the sink heard of no others. -/
structure Adds (p p' : Pipeline σ) (ds : List Dispatch) : Prop where
  setup : p'.setup = p.setup
  fleet : p.Evolves p'
  dispatches : p'.dispatches = p.dispatches ++ ds
  statuses : ∀ fails, p.sink = .listening fails →
    p'.statuses = p.statuses ++ ds.flatMap Dispatch.statuses
  answered : (∀ d ∈ ds, d.outcome.isSome) → p.Answered → p'.Answered

theorem Adds.refl (p : Pipeline σ) : p.Adds p [] :=
  ⟨rfl, evolves_of_fleet_eq rfl, by simp, by simp, fun _ h => h⟩

theorem Adds.settings {p p' : Pipeline σ} {ds : List Dispatch} (h : p.Adds p' ds) :
    p'.settings = p.settings := congrArg (·.1) h.setup

theorem Adds.sink {p p' : Pipeline σ} {ds : List Dispatch} (h : p.Adds p' ds) :
    p'.sink = p.sink := congrArg (·.2.1) h.setup

theorem Adds.trans {first second third : Pipeline σ} {ds es : List Dispatch}
    (h₁ : first.Adds second ds) (h₂ : second.Adds third es) : first.Adds third (ds ++ es) where
  setup := h₂.setup.trans h₁.setup
  fleet := h₁.fleet.trans h₂.fleet
  dispatches := by rw [h₂.dispatches, h₁.dispatches, List.append_assoc]
  statuses fails hsink := by
    rw [h₂.statuses fails (h₁.sink.trans hsink), h₁.statuses fails hsink, List.flatMap_append,
      List.append_assoc]
  answered hsettled h := by
    rw [List.forall_mem_append] at hsettled
    exact h₂.answered hsettled.2 (h₁.answered hsettled.1 h)

theorem Adds.patient {p p' : Pipeline σ} {ds : List Dispatch} (h : p.Adds p' ds)
    (hp : p.Patient) : p'.Patient := by
  have hfault : p'.pauseFault? = p.pauseFault? := congrArg (·.2.2) h.setup
  constructor
  · rw [h.settings]
    exact hp.waits
  · rw [h.settings, hfault]
    exact hp.pauses

/-! ## One dispatch -/

theorem Answered.set {p p' : Pipeline σ} {i : Nat} {after : Capability σ Nat} (h : p.Answered)
    (hfleet : p'.fleet = p.fleet.set i after)
    (hafter : ∀ call ∈ after.gate.calls, call.outcome.isSome) : p'.Answered := by
  intro cap hcap
  rw [hfleet] at hcap
  rcases List.mem_or_eq_of_mem_set hcap with hold | rfl
  · exact h cap hold
  · exact hafter

theorem adds_replace {p : Pipeline σ} {i : Nat} {before after : Capability σ Nat}
    (hfound : p.fleet[i]? = some before) (hruns : before.gate.RunsTo after.gate)
    (hcalls : (∀ call ∈ before.gate.calls, call.outcome.isSome) →
      ∀ call ∈ after.gate.calls, call.outcome.isSome) : p.Adds (p.replace i after) [] where
  setup := rfl
  fleet := evolves_set hfound hruns rfl
  dispatches := (List.append_nil _).symm
  statuses _ _ := (List.append_nil _).symm
  answered _ h := h.set rfl (hcalls (h before (List.mem_of_getElem? hfound)))

theorem adds_poll (w : Worker σ) (p : Pipeline σ) : p.Adds (p.poll w).2 [] := by
  unfold poll
  split
  · exact .refl p
  · split
    · exact .refl p
    next i cap hfound =>
      exact adds_replace hfound (.refl cap.gate) fun h => h

/-- The dispatch is handed over, and settled if its call was answered. -/
theorem handOver_last {p : Pipeline σ} (w : Worker σ) {i : Nat} {before : Capability σ Nat}
    (hfound : p.fleet[i]? = some before) (hreachable : before.gate.Reachable) {c : Command}
    {ds : List Dispatch} (hds : p.dispatches = ds ++ [⟨c, false, none⟩]) :
    ∃ (calls : List DeviceCall) (after : Capability σ Nat) (call : Gate.Call Nat),
      before.gate.Makes after.gate call ∧ before.gate.RunsTo after.gate ∧
      p.handOver w i ds.length c =
        { p with
          fleet := p.fleet.set i after
          dispatches := ds ++ [⟨c, true, call.outcome⟩]
          trace := p.trace ++
            (calls.map .called ++ closing p.sink ds.length c call.outcome) } := by
  obtain ⟨call, hrequest, hmakes⟩ :=
    Capability.makes_submit w hreachable (.command c) (some (.to ds.length))
  have hruns := Capability.runsTo_submit w (.command c) (some (.to ds.length)) before
  have hfor : call.isFor ds.length = true := by simp [isFor_of_request hrequest]
  rw [Pipeline.handOver, hfound]
  dsimp only
  generalize Capability.submit w _ _ _ = answer at hmakes hruns
  obtain ⟨calls, after⟩ := answer
  refine ⟨calls, after, call, hmakes, hruns, ?_⟩
  rw [advance_eq hmakes.delivered, report?_of_isFor hfor]
  cases call.outcome with
  | none =>
    simp [pass, closing, replace, recordCalls, markHandedOver, hds, Gate.modify_length_append]
  | some o =>
    have hlast : (((p.markHandedOver ds.length).recordCalls calls).replace i after).dispatches[
        ds.length]? = some ⟨c, true, none⟩ := by
      simp [replace, recordCalls, markHandedOver, hds, Gate.modify_length_append]
    rw [Option.map_some, pass, Option.elim_some]
    dsimp only
    rw [settle_eq hlast]
    simp [closing, replace, recordCalls, markHandedOver, hds, Gate.modify_length_append]

theorem statuses_closing (fails : Status → Bool) (n : Nat) (c : Command) (o : Option Outcome) :
    (closing (.listening fails) n c o).filterMap Event.status? =
      (o.map (Status.ended c)).toList := by
  cases o <;> rfl

/-- A dispatch adds itself, whatever becomes of it. -/
theorem exists_adds_dispatch {p : Pipeline σ} (h : ∀ cap ∈ p.fleet, cap.gate.Reachable)
    (w : Worker σ) (c : Command) :
    ∃ d : Dispatch, d.command = c ∧ p.Adds (p.dispatch w c) [d] := by
  have hpoll := adds_poll w (p.addDispatch c)
  have hadded : p.Evolves (p.addDispatch c) := evolves_of_fleet_eq rfl
  have hfleet := hadded.trans hpoll.fleet
  have hds : ((p.addDispatch c).poll w).2.dispatches = p.dispatches ++ [⟨c, false, none⟩] :=
    hpoll.dispatches.trans (List.append_nil _)
  have hstatuses : ∀ fails, p.sink = .listening fails →
      ((p.addDispatch c).poll w).2.statuses = p.statuses := fun fails hsink =>
    (hpoll.statuses fails hsink).trans (List.append_nil _)
  have hanswered : p.Answered → ((p.addDispatch c).poll w).2.Answered :=
    hpoll.answered (by simp)
  have hsetup : ((p.addDispatch c).poll w).2.setup = p.setup := hpoll.setup
  cases hlook : ((p.addDispatch c).poll w).1 with
  | none =>
    rw [dispatch_of_none hlook]
    generalize ((p.addDispatch c).poll w).2 = q at hfleet hds hstatuses hanswered hsetup
    have hlast : q.dispatches[p.dispatches.length]? = some ⟨c, false, none⟩ := by simp [hds]
    refine ⟨⟨c, false, some .notReady⟩, rfl, ?_⟩
    rw [settle_eq hlast]
    refine ⟨hsetup, hfleet.trans (evolves_of_fleet_eq rfl), ?_, ?_, fun _ => hanswered⟩
    · simp [hds, Gate.modify_length_append]
    · intro fails hsink
      have hq : q.sink = .listening fails := (congrArg (·.2.1) hsetup).trans hsink
      rw [← hstatuses fails hsink]
      simp [Pipeline.statuses, Dispatch.statuses, hq, Sink.heard, Event.status?]
  | some i =>
    have hlt := Traffic.poll_lt hlook
    rw [dispatch_of_some hlook, emit_eq]
    generalize ((p.addDispatch c).poll w).2 = q at hfleet hds hstatuses hanswered hsetup hlt
    have hfound : q.fleet[i]? = some q.fleet[i] := List.getElem?_eq_getElem hlt
    have hmem : q.fleet[i] ∈ q.fleet := List.getElem_mem hlt
    obtain ⟨calls, after, call, hmakes, hruns, hhanded⟩ := handOver_last (p :=
        { q with trace := q.trace ++ q.sink.heard (some p.dispatches.length) (.dispatched c) })
      w hfound (hfleet.reachable h _ hmem) hds
    refine ⟨⟨c, true, call.outcome⟩, rfl, ?_⟩
    rw [hhanded]
    refine ⟨hsetup, hfleet.trans (evolves_set hfound hruns rfl), rfl, ?_, ?_⟩
    · intro fails hsink
      have hq : q.sink = .listening fails := (congrArg (·.2.1) hsetup).trans hsink
      rw [← hstatuses fails hsink]
      simp [Pipeline.statuses, Dispatch.statuses, hq, statuses_closing, Sink.heard, Event.status?]
    · intro hsettled hp
      refine (hanswered hp).set rfl fun call' hcall' => ?_
      rw [hmakes.calls] at hcall'
      rcases List.mem_append.mp hcall' with hold | hnew
      · exact hanswered hp _ hmem call' hold
      · rw [List.mem_singleton.mp hnew]
        exact hsettled _ (List.mem_singleton_self _)

/-! ## A run -/

theorem adds_pause (p : Pipeline σ) : p.Adds p.pause.2 [] := by
  obtain ⟨more, hpause, hmore⟩ := p.exists_pause
  rw [hpause]
  refine ⟨rfl, evolves_of_fleet_eq rfl, by simp, fun fails _ => ?_, fun _ h => h⟩
  have hnone : more.filterMap Event.status? = [] := List.filterMap_eq_nil_iff.mpr fun e he => by
    have hpause := hmore e he
    cases e <;> simp_all [Event.isPause, Event.status?]
  simp [Pipeline.statuses, hnone]

theorem carryOut_of_adds {p : Pipeline σ} (hp : p.Patient) {w : Worker σ} {c : Command}
    {d : Dispatch} (h : p.Adds (p.dispatch w c) [d]) :
    p.carryOut w c = (.ok (d.verdict p.settings.resultTimeout), p.dispatch w c) := by
  have hlast : (p.dispatch w c).lastOutcome? = d.outcome := by
    rw [lastOutcome?, h.dispatches]
    simp
  rw [carryOut, hlast, Dispatch.verdict]
  cases d.outcome with
  | some o => rfl
  | none =>
    rw [hp.waits]
    rfl

/-- A run dispatches its commands in order, up to a failure if it stops there, and returns what
became of each dispatch. -/
theorem exists_adds_runCommands (w : Worker σ) (stopOnFailure : Bool) (cs : List Command)
    {p : Pipeline σ} (h : ∀ cap ∈ p.fleet, cap.gate.Reachable) (hp : p.Patient) :
    ∃ ds p', runCommands w stopOnFailure cs p =
        (.ok (ds.map (Dispatch.verdict p.settings.resultTimeout)), p') ∧ p.Adds p' ds ∧
      ds.map (·.command) <+: cs ∧
      (stopOnFailure = false ∨ (∀ d ∈ ds, d.succeeded = true) → ds.length = cs.length) := by
  induction cs generalizing p with
  | nil => exact ⟨[], p, rfl, .refl p, List.prefix_refl _, fun _ => rfl⟩
  | cons c cs ih =>
    obtain ⟨d, rfl, hd⟩ := exists_adds_dispatch h w c
    rw [runCommands, carryOut_of_adds hp hd]
    dsimp only
    split
    next hends =>
      refine ⟨[d], _, rfl, hd, by simp, fun hgoes => ?_⟩
      have hnil : cs = [] := by
        rcases hgoes with hkeeps | hsucceeds
        · simpa [hkeeps] using hends
        · simpa [Outcome.isFailure, d.isSuccess_verdict, hsucceeds d (by simp)] using hends
      rw [hnil]
      rfl
    · have hpaused := hd.trans (adds_pause _)
      have hpatient := hpaused.patient hp
      obtain ⟨ds, p', hrun, hadds, hpre, hall⟩ :=
        ih (hpaused.fleet.reachable h) hpatient
      have hmade : ((p.dispatch w d.command).pause).1 = .ok () := by
        rw [(hd.patient hp).pause_eq]
      generalize (p.dispatch w d.command).pause = paused at hmade hpaused hrun hadds
      obtain ⟨made, q⟩ := paused
      subst hmade
      dsimp only at hrun hadds hpaused ⊢
      rw [hrun, hpaused.settings]
      refine ⟨d :: ds, p', rfl, hpaused.trans hadds, ?_, fun hgoes => ?_⟩
      · simpa using hpre
      · have hrest := hall (hgoes.imp_right fun h d hd => h d (List.mem_cons_of_mem _ hd))
        rw [List.length_cons, hrest, List.length_cons]

/-! ## Taking stock -/

/-- Shutting down tells the sink nothing when there is no call that waits for its answer. -/
theorem Answered.statuses_shutDown {p : Pipeline σ} (h : p.Answered)
    (hreachable : ∀ cap ∈ p.fleet, cap.gate.Reachable) : p.shutDown.statuses = p.statuses := by
  have hstop : ∀ i, (p.stop i).statuses = p.statuses := by
    intro i
    unfold stop
    split
    · rfl
    next cap hfound =>
      have hmem := List.mem_of_getElem? hfound
      cases Capability.ends_shutDown (hreachable cap hmem) with
      | none _ hdelivered =>
        rw [advance_eq (r := none) (by simpa using hdelivered)]
        rfl
      | one j call o hcall hnone =>
        have hsome := h cap hmem call (List.mem_of_getElem? hcall)
        rw [hnone] at hsome
        cases hsome
  rw [shutDown_eq]
  cases p.attached with
  | none => rfl
  | some i => exact hstop i

theorem Dispatch.countP_statuses (d : Dispatch) :
    d.statuses.countP (fun s => s.kind = .succeeded) =
      if d.succeeded then 1 else 0 := by
  rw [statuses, List.countP_append]
  have hdispatched : (if d.handedOver then [Status.dispatched d.command] else []).countP
      (fun s => s.kind = .succeeded) = 0 := by
    split <;> rfl
  rw [hdispatched, Nat.zero_add]
  rw [succeeded]
  cases d.outcome with
  | none => rfl
  | some o => simp [List.countP_singleton, (Status.describes_ended d.command o).succeeded]

/-- There is one status of a success for each dispatch that succeeded. -/
theorem countP_statuses (ds : List Dispatch) :
    (ds.flatMap Dispatch.statuses).countP (fun s => s.kind = .succeeded) =
      ds.countP Dispatch.succeeded := by
  induction ds with
  | nil => rfl
  | cons d ds ih =>
    rw [List.flatMap_cons, List.countP_append, ih, d.countP_statuses, List.countP_cons,
      Nat.add_comm]

theorem Dispatch.exists_failed_iff (d : Dispatch) (hsettled : d.outcome.isSome) :
    (∃ s ∈ d.statuses, s.kind = .failed) ↔ d.succeeded = false := by
  obtain ⟨c, handedOver, outcome⟩ := d
  obtain ⟨o, rfl⟩ := Option.isSome_iff_exists.mp hsettled
  have hended := (Status.describes_ended c o).failed
  cases handedOver <;>
    simp [statuses, succeeded, Status.dispatched, hended, Outcome.isFailure]

/-- There is a status of a failure just when there is a dispatch that failed. -/
theorem exists_failed_iff {ds : List Dispatch} (hsettled : ∀ d ∈ ds, d.outcome.isSome) :
    (∃ s ∈ ds.flatMap Dispatch.statuses, s.kind = .failed) ↔
      ∃ d ∈ ds, d.succeeded = false := by
  constructor
  · rintro ⟨s, hs, hfailed⟩
    obtain ⟨d, hd, hsd⟩ := List.mem_flatMap.mp hs
    exact ⟨d, hd, (d.exists_failed_iff (hsettled d hd)).mp ⟨s, hsd, hfailed⟩⟩
  · rintro ⟨d, hd, hfails⟩
    obtain ⟨s, hsd, hfailed⟩ := (d.exists_failed_iff (hsettled d hd)).mpr hfails
    exact ⟨s, List.mem_flatMap.mpr ⟨d, hd, hsd⟩, hfailed⟩

/-- The successes that a run returns are the dispatches that succeeded. -/
theorem countP_verdict (limit : Binary64) (ds : List Dispatch) :
    (ds.map (Dispatch.verdict limit)).countP (·.isSuccess) =
      ds.countP Dispatch.succeeded := by
  rw [List.countP_map]
  exact List.countP_congr fun d _ => by simp [d.isSuccess_verdict]

end GestureScript.Pipeline
