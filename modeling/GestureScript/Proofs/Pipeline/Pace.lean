import GestureScript.Proofs.Pipeline.Account
import GestureScript.Proofs.Pipeline.DryRun

/-!
# Runs at any pace

A worker that obliges may still be slow. A run of its commands goes as if it were not, up to
the first performance that outlasts the wait for it. There the clock makes no wait, which
breaks off the run, or the client gives up and takes it for a failure. By induction on the
commands: as long as none lags, the capability is free for the next.
-/

set_option autoImplicit false

namespace GestureScript

variable {σ : Type}

namespace Worker

/-- Does the performance of a command outlast the wait for it? -/
def lagsAt (w : Worker σ) (limit : Binary64) (pace : Submission → σ → Pace) (c : Command)
    (st : σ) : Bool :=
  (pace (.command c) (w.polledTwice st)).outlasts limit

/-- Does one of the commands, when they are performed one after the other? -/
def lags (w : Worker σ) (limit : Binary64) (pace : Submission → σ → Pace) :
    List Command → σ → Bool
  | [], _ => false
  | c :: cs, st => w.lagsAt limit pace c st || w.lags limit pace cs (w.after c st)

/-- Does the first? -/
def lagsAtOnce (w : Worker σ) (limit : Binary64) (pace : Submission → σ → Pace)
    (cs : List Command) (st : σ) : Bool :=
  cs.head?.any fun c => w.lagsAt limit pace c st

end Worker

variable {w : Worker σ} {fit : σ → Prop} {limit : Binary64} {pace : Submission → σ → Pace}
  {c : Command}

/-! ## One command -/

namespace Capability

variable {κ : Type} {cap : Capability σ κ}

theorem begin_eq_of_perform {w' : Worker σ}
    (h : w'.perform (.command c) cap.state = w.perform (.command c) cap.state) :
    begin w' c cap = begin w c cap := by
  rw [begin, begin, h]

/-- The pace says nothing of whether the worker is ready. -/
theorem poll_paced (hw : w.Steady fit) (hfit : fit cap.state) :
    poll (w.paced limit pace) { cap with state := (w.isReady cap.state).2 } =
      (true, { cap with state := w.polledTwice cap.state }) := by
  have hpoll : poll w { cap with state := (w.isReady cap.state).2 } = _ :=
    poll_of_steady hw (hw.polled _ hfit)
  exact hpoll

theorem submit_paced (hw : w.Steady fit) (hfit : fit cap.state) (hfree : cap.gate.Free)
    (hlag : w.lagsAt limit pace c cap.state = false) (callback : Option (Gate.Callback κ)) :
    submit (w.paced limit pace) (.command c) callback
        { cap with state := (w.isReady cap.state).2 } =
      submit w (.command c) callback { cap with state := (w.isReady cap.state).2 } := by
  have hpoll : poll w { cap with state := (w.isReady cap.state).2 } = _ :=
    poll_of_steady hw (hw.polled _ hfit)
  rw [submit, submit, poll_paced hw hfit, hpoll]
  simp only [Gate.submit_of_free hfree.locked hfree.stopped]
  apply begin_eq_of_perform
  rw [Worker.lagsAt, Worker.polledTwice] at hlag
  simp [Worker.paced, Worker.polledTwice, hlag]

/-- A performance that lags leaves its call without an answer. -/
theorem delivered_submit_of_lagsAt (hw : w.Steady fit) (hfit : fit cap.state)
    (hfree : cap.gate.Free) (hlag : w.lagsAt limit pace c cap.state = true)
    (callback : Option (Gate.Callback κ)) :
    (submit (w.paced limit pace) (.command c) callback
        { cap with state := (w.isReady cap.state).2 }).2.gate.delivered =
      cap.gate.delivered := by
  rw [submit, poll_paced hw hfit]
  simp only [Gate.submit_of_free hfree.locked hfree.stopped]
  have hheld : ((w.paced limit pace).perform (.command c) (w.polledTwice cap.state)).1.held =
      true := by
    rw [Worker.lagsAt] at hlag
    simp [Worker.paced, hlag]
  simp [begin, hheld, Gate.start, Gate.addCall]

end Capability

namespace Pipeline

variable {p : Pipeline σ} {i : Nat} {cap : Capability σ Nat}

theorem handOver_eq_of_submit {w' : Worker σ} {n : Nat} (hfound : p.fleet[i]? = some cap)
    (h : cap.submit w' (.command c) (some (.to n)) = cap.submit w (.command c) (some (.to n))) :
    p.handOver w' i n c = p.handOver w i n c := by
  rw [Pipeline.handOver, Pipeline.handOver, hfound]
  dsimp only
  rw [h]

/-- Without an answer a dispatch stays open. -/
theorem lastOutcome?_handOver {ds : List Dispatch} (hds : p.dispatches = ds ++ [⟨c, false, none⟩])
    (hfound : p.fleet[i]? = some cap)
    (hnone : (cap.submit w (.command c) (some (.to ds.length))).2.gate.delivered =
      cap.gate.delivered) :
    (p.handOver w i ds.length c).lastOutcome? = none := by
  rw [Pipeline.handOver, hfound]
  dsimp only
  generalize cap.submit w _ _ = answer at hnone
  obtain ⟨calls, after⟩ := answer
  dsimp only at hnone ⊢
  rw [advance, hnone, List.drop_length]
  simp [lastOutcome?, replace, recordCalls, markHandedOver, hds, Gate.modify_length_append]

namespace Serves

theorem poll_paced (h : p.Serves i cap fit) (hw : w.Steady fit) (c : Command) :
    (p.addDispatch c).poll (w.paced limit pace) =
      (some i, (p.addDispatch c).replace i { cap with state := (w.isReady cap.state).2 }) :=
  h.poll_addDispatch hw c

theorem found_polled (h : p.Serves i cap fit) (w : Worker σ) (c : Command) (n : Option Nat)
    (s : Status) :
    (((p.addDispatch c).replace i { cap with state := (w.isReady cap.state).2 }).emit
      n s).fleet[i]? = some { cap with state := (w.isReady cap.state).2 } := by
  have hlt : i < p.fleet.length := (List.getElem?_eq_some_iff.mp h.found).1
  simp [replace, addDispatch, hlt]

theorem carryOut_paced (h : p.Serves i cap fit) (hw : w.Steady fit)
    (hlag : w.lagsAt limit pace c cap.state = false) :
    p.carryOut (w.paced limit pace) c = p.carryOut w c := by
  have hdispatch : p.dispatch (w.paced limit pace) c = p.dispatch w c := by
    rw [Pipeline.dispatch, Pipeline.dispatch, h.poll_paced hw, h.poll_addDispatch hw]
    exact handOver_eq_of_submit (h.found_polled w c _ _)
      (Capability.submit_paced hw h.fit h.free hlag _)
  rw [Pipeline.carryOut, Pipeline.carryOut, hdispatch]

/-- A client that gets no outcome gives up, unless the clock makes no wait. -/
theorem carryOut_of_lagsAt (h : p.Serves i cap fit) (hw : w.Steady fit)
    (hlag : w.lagsAt limit pace c cap.state = true) :
    p.carryOut (w.paced limit pace) c =
      (match Clock.waitFault? p.settings.resultTimeout with
        | some f => .error f
        | none => .ok (timedOut p.settings.resultTimeout),
        p.dispatch (w.paced limit pace) c) := by
  have hnone : (p.dispatch (w.paced limit pace) c).lastOutcome? = none := by
    rw [Pipeline.dispatch, h.poll_paced hw]
    exact lastOutcome?_handOver (by simp [replace, addDispatch]) (h.found_polled w c _ _)
      (Capability.delivered_submit_of_lagsAt hw h.fit h.free hlag _)
  rw [Pipeline.carryOut, hnone]
  cases Clock.waitFault? p.settings.resultTimeout <;> rfl

end Serves

/-! ## All commands -/

/-- The run comes to its end, and tells whether something failed. -/
def EndsWith (answer : Except Fault (List Outcome) × Pipeline σ) (failed : Bool) : Prop :=
  ∃ os, answer.1 = .ok os ∧ os.any (·.isFailure) = failed

section

variable {o : Outcome} {answer : Except Fault (List Outcome) × Pipeline σ} {failed : Bool}

theorem endsWith_prepend_success (h : o.isFailure = false) :
    EndsWith (prepend [o] answer) failed ↔ EndsWith answer failed := by
  obtain ⟨made, after⟩ := answer
  cases made <;> simp [EndsWith, prepend, Except.map, h]

theorem endsWith_prepend_failure (h : o.isFailure = true) :
    EndsWith (prepend [o] answer) failed ↔ (∃ os, answer.1 = .ok os) ∧ failed = true := by
  obtain ⟨made, after⟩ := answer
  cases made <;> simp [EndsWith, prepend, Except.map, h, eq_comm]

end

theorem Adds.pauses_iff {p' : Pipeline σ} {ds : List Dispatch} (h : p.Adds p' ds) :
    p'.Pauses ↔ p.Pauses := by
  have hfault : p'.pauseFault? = p.pauseFault? := congrArg (·.2.2) h.setup
  rw [Pauses, Pauses, h.settings, hfault]

theorem not_pauses_of_goOn {stopOnFailure : Bool} {cs : List Command} (h : ¬p.Pauses) :
    ¬∃ os, (goOn w stopOnFailure cs p).1 = .ok os :=
  fun ⟨_, hos⟩ => h (pause_eq_ok_iff.mp (pause_of_goOn hos))

section

variable (hreachable : ∀ cap ∈ p.fleet, cap.gate.Reachable)

include hreachable

/-- After a failure any run that is not stopped comes to its end, if the clock makes its waits
and pauses. -/
theorem exists_goOn_iff (hwait : Clock.waitFault? p.settings.resultTimeout = none)
    (w : Worker σ) (stopOnFailure : Bool) (cs : List Command) :
    (∃ os, (goOn w stopOnFailure cs p).1 = .ok os) ↔ p.Pauses := by
  refine ⟨fun h => by_contra fun hpauses => not_pauses_of_goOn hpauses h, fun hpauses => ?_⟩
  have hpaused := adds_pause p
  rw [goOn_eq (pause_eq_ok_iff.mpr hpauses)]
  obtain ⟨ds, p', hrun, _⟩ := exists_adds_runCommands w stopOnFailure cs
    (hpaused.fleet.reachable hreachable) (hpaused.patient ⟨hwait, hpauses⟩)
  exact ⟨_, congrArg Prod.fst hrun⟩

variable {outcome : Command → Outcome} {record : σ → List Command}

/-- A run of which the first command lags. -/
theorem Serves.endsWith_of_lagsAt (h : p.Serves i cap fit) (hw : w.Steady fit)
    (hlag : w.lagsAt limit pace c cap.state = true) (stopOnFailure : Bool) (cs : List Command)
    (failed : Bool) :
    EndsWith (runCommands (w.paced limit pace) stopOnFailure (c :: cs) p) failed ↔
      (cs ≠ [] → stopOnFailure = false → p.Pauses) ∧
        Clock.waitFault? p.settings.resultTimeout = none ∧ failed = true := by
  have hcarried := h.carryOut_of_lagsAt hw hlag
  cases hwait : Clock.waitFault? p.settings.resultTimeout with
  | some f =>
    rw [hwait] at hcarried
    rw [runCommands, hcarried]
    simp [EndsWith]
  | none =>
    rw [hwait] at hcarried
    obtain ⟨d, _, hadds⟩ := exists_adds_dispatch hreachable (w.paced limit pace) c
    have hfailure : (timedOut p.settings.resultTimeout).isFailure = true := rfl
    rw [runCommands_of_carryOut hcarried, endsWith_prepend_failure hfailure, hfailure,
      Bool.and_true]
    by_cases hends : (stopOnFailure || cs.isEmpty) = true
    · have hstops : cs ≠ [] → stopOnFailure = true := by
        simpa [or_iff_not_imp_right] using hends
      simp +contextual [hends, hstops]
    · obtain ⟨hkeeps, hmore⟩ : stopOnFailure = false ∧ cs ≠ [] := by simpa using hends
      have hwait' : Clock.waitFault? (p.dispatch (w.paced limit pace) c).settings.resultTimeout =
          none := by rw [hadds.settings, hwait]
      rw [if_neg hends, exists_goOn_iff (hadds.fleet.reachable hreachable) hwait',
        hadds.pauses_iff]
      simp [hkeeps, hmore]

omit hreachable in
/-- A run comes to its end if the clock makes the pauses that the run gets to, and the wait for
a performance that lags. Then something failed just if one did. -/
theorem Serves.endsWith_iff (hw : w.Obliges fit outcome record)
    (pace : Submission → σ → Pace) (stopOnFailure : Bool) (cs : List Command)
    {p : Pipeline σ} {cap : Capability σ Nat} (h : p.Serves i cap fit)
    (hreachable : ∀ cap ∈ p.fleet, cap.gate.Reachable)
    (hlimit : p.settings.resultTimeout = limit) (failed : Bool) :
    EndsWith (runCommands (w.paced limit pace) stopOnFailure cs p) failed ↔
      (2 ≤ cs.length → ¬(stopOnFailure = true ∧ w.lagsAtOnce limit pace cs cap.state = true) →
        p.Pauses) ∧
      (w.lags limit pace cs cap.state = true → Clock.waitFault? limit = none) ∧
      failed = w.lags limit pace cs cap.state := by
  induction cs generalizing p cap with
  | nil => simp [EndsWith, Worker.lags]
  | cons c cs ih =>
    have hlength : 2 ≤ (c :: cs).length ↔ cs ≠ [] := by
      simp [Nat.succ_le_iff, List.length_pos_iff]
    rw [hlength]
    cases hlag : w.lagsAt limit pace c cap.state with
    | true =>
      rw [h.endsWith_of_lagsAt hreachable hw.steady hlag, hlimit]
      simp [Worker.lags, Worker.lagsAtOnce, hlag]
    | false =>
      have hcarried := (h.carryOut_paced hw.steady hlag).trans (h.carryOut hw.steady c)
      have hsuccess : (w.outcome c cap.state).isFailure = false := by
        rw [hw.outcome_eq c cap.state h.fit, hw.succeeds]
      obtain ⟨d, _, hadds⟩ := exists_adds_dispatch hreachable w c
      have hserves := h.served hw.steady c
      rw [h.dispatch hw.steady c] at hadds
      rw [runCommands_of_carryOut hcarried, endsWith_prepend_success hsuccess, hsuccess,
        Bool.and_false, Bool.false_or, Worker.lags, hlag, Bool.false_or]
      cases cs with
      | nil => simp [EndsWith, Worker.lags]
      | cons next cs =>
        rw [List.isEmpty_cons, if_neg Bool.false_ne_true]
        by_cases hpauses : p.Pauses
        · have hmade := hadds.pauses_iff.mpr hpauses
          have hpaused := hadds.trans (adds_pause _)
          have hstill := hpaused.pauses_iff.mpr hpauses
          rw [goOn_eq (pause_eq_ok_iff.mpr hmade), ih hserves.pause
            (hpaused.fleet.reachable hreachable) (by rw [hpaused.settings, hlimit])]
          exact and_congr_left' (iff_of_true (fun _ _ => hstill) fun _ _ => hpauses)
        · refine iff_of_false (fun ⟨os, hos, _⟩ => ?_) fun hends => hpauses ?_
          · exact not_pauses_of_goOn (mt hadds.pauses_iff.mp hpauses) ⟨os, hos⟩
          · exact hends.1 (by simp) (by simp [Worker.lagsAtOnce, hlag])

end

end Pipeline

end GestureScript
