import GestureScript.Proofs.Pipeline.Meanwhile
import GestureScript.Proofs.Pipeline.Protocol

/-!
# The legs of a script

What is observed of a script is a leg for each command that was dispatched, and a gap
between one leg and the next. In its leg a command is dispatched and comes to the outcome
that the script returns for it; pauses are made in gaps only.
-/

set_option autoImplicit false

namespace GestureScript.Pipeline

variable {σ : Type}

/-- What there is to hear of a dispatch until the script has an outcome for it. -/
inductive Heard (limit : Binary64) (sink : Sink) (n : Nat) (c : Command) :
    Outcome → List Event → Prop
  | turnedAway : Heard limit sink n c .notReady (closing sink n c (some .notReady))
  | answered (o : Outcome) :
      Heard limit sink n c o (sink.heard (some n) (.dispatched c) ++ closing sink n c (some o))
  /-- There is no answer within the limit. -/
  | gaveUp : Heard limit sink n c (timedOut limit) (sink.heard (some n) (.dispatched c))

/-- The `n`th dispatch, up to its outcome. -/
structure Leg (settings : Settings) (sink : Sink) (n : Nat) (c : Command) (o : Outcome)
    (es : List Event) : Prop where
  heard : Heard settings.resultTimeout sink n c o (es.filter (·.isAbout n))
  later : ∀ m, n < m → es.filter (·.isAbout m) = []
  pauses : es.filter Event.isPause = []

/-- The pauses between one command and the next. -/
def pausesBetween (settings : Settings) : List Event :=
  if settings.commandDelay.isPositive then [.paused settings.commandDelay] else []

/-- What comes after the outcome of the `n`th dispatch and before the next dispatch. -/
structure Gap (settings : Settings) (n : Nat) (es : List Event) : Prop where
  later : ∀ m, n < m → es.filter (·.isAbout m) = []
  pauses : es.filter Event.isPause = pausesBetween settings

/-- The legs of commands with their outcomes, from the `n`th dispatch on. -/
inductive Legs (settings : Settings) (sink : Sink) :
    Nat → List (Command × Outcome) → List Event → Prop
  | none (n : Nat) : Legs settings sink n [] []
  | last {n c o es} : Leg settings sink n c o es → Legs settings sink n [(c, o)] es
  | next {n c o es gap course more} : Leg settings sink n c o es → Gap settings n gap →
      course ≠ [] → Legs settings sink (n + 1) course more →
      Legs settings sink n ((c, o) :: course) (es ++ gap ++ more)

/-- There is one pause fewer than there are commands, or no pause at all. -/
theorem Legs.pauses {settings : Settings} {sink : Sink} {n : Nat}
    {course : List (Command × Outcome)} {es : List Event} (h : Legs settings sink n course es) :
    es.filter Event.isPause =
      List.replicate (if settings.commandDelay.isPositive then course.length - 1 else 0)
        (.paused settings.commandDelay) := by
  induction h with
  | none n => simp
  | last hleg => simp [hleg.pauses]
  | @next n c o es gap course more hleg hgap hne _ ih =>
    obtain ⟨k, hk⟩ : ∃ k, course.length = k + 1 :=
      ⟨course.length - 1, by have := List.length_pos_iff.mpr hne; omega⟩
    rw [List.filter_append, List.filter_append, hleg.pauses, hgap.pauses, ih, pausesBetween]
    split <;> simp [hk, List.replicate_succ]

/-- The clock makes the waits and the pauses of a script. -/
structure Patient (p : Pipeline σ) : Prop where
  waits : Clock.waitFault? p.settings.resultTimeout = none
  pauses : p.settings.commandDelay.isPositive = true →
    p.pauseFault? p.settings.commandDelay = none

theorem Patient.pause_eq {p : Pipeline σ} (h : p.Patient) :
    p.pause = (.ok (), { p with trace := p.trace ++ pausesBetween p.settings }) := by
  unfold pause
  dsimp only
  split
  next hpositive => rw [h.pauses hpositive, pausesBetween, if_pos hpositive, record]
  next hpositive => rw [pausesBetween, if_neg hpositive, List.append_nil]

namespace Traffic

variable {t : Traffic σ}

theorem Reaches.patient {w : Worker σ} {t' : Traffic σ} (h : Reaches w t t')
    (ht : t.pipeline.Patient) : t'.pipeline.Patient := by
  have hfault : t'.pipeline.pauseFault? = t.pipeline.pauseFault? := congrArg (·.2.2) h.setup
  constructor
  · rw [h.settings]
    exact ht.waits
  · rw [h.settings, hfault]
    exact ht.pauses

theorem exists_trace_run (w : Worker σ) (t : Traffic σ) {moves : List (Move σ)}
    (h : .pause ∉ moves) :
    ∃ more, (t.run w moves).pipeline.trace = t.pipeline.trace ++ more ∧
      more.filter Event.isPause = [] := by
  induction moves generalizing t with
  | nil => exact ⟨[], (List.append_nil _).symm, rfl⟩
  | cons m moves ih =>
    obtain ⟨hm, hmoves⟩ := List.ne_and_not_mem_of_not_mem_cons h
    obtain ⟨first, hfirst, hnone, _⟩ := t.trace_step w m
    obtain ⟨second, hsecond, hnone'⟩ := ih (t.step w m) hmoves
    refine ⟨first ++ second, ?_, ?_⟩
    · rw [run_cons, hsecond, hfirst, List.append_assoc]
    · rw [List.filter_append, hnone (Ne.symm hm), hnone']
      rfl

/-! ## Between two commands -/

/-- Nothing is observed of a dispatch that is yet to come. -/
theorem Orderly.filter_later (h : t.Orderly) {before es : List Event}
    (htrace : t.pipeline.trace = before ++ es) {m : Nat} (hm : t.pipeline.dispatches.length ≤ m) :
    es.filter (·.isAbout m) = [] := by
  have hnone := (h.nothing_of_later hm).1
  rw [eventsOf, htrace, List.filter_append] at hnone
  exact (List.append_eq_nil_iff.mp hnone).2

theorem length_rest (w : Worker σ) (others : Meanwhile σ) (t : Traffic σ) :
    (t.rest w others).pipeline.dispatches.length = t.pipeline.dispatches.length := by
  obtain ⟨more, hpause, _⟩ := (t.lapse w others .answered).pipeline.exists_pause
  rw [rest, pause, (lapse_keeps w others .paused _).2, hpause]
  exact (lapse_keeps w others .answered t).2

theorem Orderly.gap_rest (h : t.Orderly) (hpatient : t.pipeline.Patient) (w : Worker σ)
    (others : Meanwhile σ) {n : Nat} (hn : t.pipeline.dispatches.length = n + 1) :
    ∃ es, (t.rest w others).pipeline.trace = t.pipeline.trace ++ es ∧
      Gap t.pipeline.settings n es := by
  obtain ⟨before, after, hbefore, hafter, hrest⟩ := t.exists_rest w others
  obtain ⟨first, hfirst, hfirst'⟩ := t.exists_trace_run w hbefore
  obtain ⟨second, hsecond, hsecond'⟩ := ((t.run w before).step w .pause).exists_trace_run w hafter
  have hpause : ((t.run w before).step w .pause).pipeline.trace =
      (t.run w before).pipeline.trace ++ pausesBetween t.pipeline.settings := by
    rw [Traffic.step, (Reaches.patient ⟨before, rfl⟩ hpatient).pause_eq, settings_run]
  have htrace : (t.rest w others).pipeline.trace =
      t.pipeline.trace ++ (first ++ pausesBetween t.pipeline.settings ++ second) := by
    rw [hrest, hsecond, hpause, hfirst]
    simp
  refine ⟨_, htrace, fun m hm => ?_, ?_⟩
  · refine ((reaches_rest w others t).orderly h).filter_later htrace ?_
    rw [length_rest, hn]
    exact hm
  · rw [List.filter_append, List.filter_append, hfirst', hsecond', pausesBetween]
    split <;> simp [Event.isPause]

/-! ## One command -/

/-- The outcome that a script has for a command. -/
def verdict (w : Worker σ) (others : Meanwhile σ) (c : Command) (t : Traffic σ) : Outcome :=
  ((t.serve w others c).outcome? t.pipeline.dispatches.length).getD
    (timedOut t.pipeline.settings.resultTimeout)

theorem carryOut_eq (h : t.pipeline.Patient) (w : Worker σ) (others : Meanwhile σ) (c : Command) :
    t.carryOut w others c = (.ok (t.verdict w others c), t.serve w others c) := by
  unfold carryOut verdict
  dsimp only
  cases (t.serve w others c).outcome? t.pipeline.dispatches.length with
  | some o => rfl
  | none => rw [h.waits]; rfl

/-- Once a dispatch is handed over it no longer waits for that. -/
theorem waiting_serve (w : Worker σ) (others : Meanwhile σ) (c : Command) (t : Traffic σ) :
    (t.serve w others c).waiting t.pipeline.dispatches.length = none := by
  have hdispatch : ∃ d, ((t.ask w c).lapse w others .asked).pipeline.dispatches[
      t.pipeline.dispatches.length]? = some d := by
    refine ⟨_, List.getElem?_eq_getElem ?_⟩
    rw [(lapse_keeps w others .asked _).2, length_ask]
    exact Nat.lt_succ_self _
  obtain ⟨d, hd⟩ := hdispatch
  rw [serve, (lapse_keeps w others .handedOver _).1, handOver, hd]
  cases hwaiting : ((t.ask w c).lapse w others .asked).waiting t.pipeline.dispatches.length with
  | none => exact hwaiting
  | some i => exact Function.update_self _ _ _

theorem Orderly.leg_serve (h : t.Orderly) (w : Worker σ) (others : Meanwhile σ) (c : Command) :
    ∃ es, (t.serve w others c).pipeline.trace = t.pipeline.trace ++ es ∧
      Leg t.pipeline.settings t.pipeline.sink t.pipeline.dispatches.length c
        (t.verdict w others c) es := by
  obtain ⟨moves, hserve, hmoves⟩ := t.exists_serve w others c
  obtain ⟨ready, hreported⟩ :
      ∃ ready, ((t.step w (.ask c)).run w moves).Reported t.pipeline.dispatches.length c ready :=
    ⟨_, h.reported_run w rfl moves⟩
  have hnone : .pause ∉ (.ask c :: moves : List (Move σ)) := by simp [hmoves]
  obtain ⟨es, htrace, hpauses⟩ := t.exists_trace_run w hnone
  have hsink := sink_run w t (.ask c :: moves)
  have hwaiting := waiting_serve w others c t
  have hserved := (reaches_serve w others c t).orderly h
  have hlength := length_serve w others c t
  rw [run_cons] at htrace hsink
  change t.serve w others c = (t.step w (.ask c)).run w moves at hserve
  rw [← hserve] at htrace hsink hreported
  -- nothing was observed of the dispatch before, so what is known of it is all in the leg
  have hevents : es.filter (·.isAbout t.pipeline.dispatches.length) =
      (t.serve w others c).pipeline.eventsOf t.pipeline.dispatches.length := by
    have hnone := (h.nothing_of_later (Nat.le_refl _)).1
    rw [eventsOf] at hnone
    rw [eventsOf, htrace, List.filter_append, hnone, List.nil_append]
  refine ⟨es, htrace, ?_, fun m hm => hserved.filter_later htrace (by omega), hpauses⟩
  rw [hevents, verdict]
  generalize t.serve w others c = served at *
  cases hreported with
  | turnedAway _ hd _ he =>
    rw [he, outcome?, hd, hsink]
    exact .turnedAway
  | waiting i hw => simp [hw] at hwaiting
  | handedOver call _ hd _ _ he =>
    rw [he, outcome?, hd, hsink]
    cases call.outcome with
    | none =>
      rw [closing, Option.elim_none, List.append_nil]
      exact .gaveUp
    | some o => exact .answered o

/-! ## All commands -/

theorem runCommands_cons (h : t.pipeline.Patient) (w : Worker σ) (others : Meanwhile σ)
    (stopOnFailure : Bool) (c : Command) (cs : List Command) :
    t.runCommands w others stopOnFailure (c :: cs) =
      let o := t.verdict w others c
      let after := t.serve w others c
      if stopOnFailure && o.isFailure || cs.isEmpty then (.ok [o], after)
      else
        let (os, t') := (after.rest w others).runCommands w others stopOnFailure cs
        (os.map (o :: ·), t') := by
  rw [runCommands, carryOut_eq h]
  dsimp only
  split
  · rfl
  · have hlapse : ((t.serve w others c).lapse w others .answered).pipeline.Patient :=
      ((reaches_serve w others c t).trans (reaches_lapse w others .answered _)).patient h
    rw [rest, pause, hlapse.pause_eq]

/-- A script comes to an outcome for each command that it dispatches, a leg for each. -/
theorem Orderly.legs_runCommands (h : t.Orderly) (hpatient : t.pipeline.Patient) (w : Worker σ)
    (others : Meanwhile σ) (stopOnFailure : Bool) (cs : List Command) :
    ∃ os t' es, t.runCommands w others stopOnFailure cs = (.ok os, t') ∧
      t'.pipeline.trace = t.pipeline.trace ++ es ∧
      Legs t.pipeline.settings t.pipeline.sink t.pipeline.dispatches.length (cs.zip os) es ∧
      t'.pipeline.dispatches.length = t.pipeline.dispatches.length + os.length ∧
      os.length ≤ cs.length ∧ (os = [] → cs = []) := by
  induction cs generalizing t with
  | nil =>
    have htrace : t.pipeline.trace = t.pipeline.trace ++ [] := (List.append_nil _).symm
    exact ⟨[], t, [], rfl, htrace, .none _, rfl, Nat.le_refl _, fun _ => rfl⟩
  | cons c cs ih =>
    obtain ⟨leg, hleg, hleg'⟩ := h.leg_serve w others c
    have hlength := length_serve w others c t
    rw [runCommands_cons hpatient]
    dsimp only
    split
    · refine ⟨_, _, leg, rfl, hleg, ?_, hlength, by simp, by simp⟩
      rw [List.zip_cons_cons, List.zip_nil_right]
      exact .last hleg'
    next hgoesOn =>
      -- the other commands are dispatched from the number that the leg and the gap lead to
      have hserve := reaches_serve w others c t
      have hrest := reaches_rest w others (t.serve w others c)
      obtain ⟨gap, hgap, hgap'⟩ :=
        (hserve.orderly h).gap_rest (hserve.patient hpatient) w others hlength
      obtain ⟨os, t', es, hrun, htrace, hlegs, hdispatches, hle, hne⟩ :=
        ih ((hserve.trans hrest).orderly h) ((hserve.trans hrest).patient hpatient)
      rw [hrest.settings, hserve.settings, hrest.sink, hserve.sink, length_rest, hlength] at hlegs
      rw [length_rest, hlength] at hdispatches
      rw [hserve.settings] at hgap'
      rw [hrun]
      refine ⟨_, t', leg ++ gap ++ es, rfl, ?_, ?_, ?_, ?_, by simp⟩
      · rw [htrace, hgap, hleg]
        simp
      · refine .next hleg' hgap' (fun hnil => ?_) hlegs
        have hcs : cs ≠ [] := by
          rintro rfl
          simp at hgoesOn
        rcases List.zip_eq_nil_iff.mp hnil with hnil | hnil
        · exact hcs hnil
        · exact hcs (hne hnil)
      · rw [hdispatches, List.length_cons]
        omega
      · rw [List.length_cons, List.length_cons]
        omega

end Traffic

end GestureScript.Pipeline
