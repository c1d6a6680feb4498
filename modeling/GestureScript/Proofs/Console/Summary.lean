import GestureScript.Proofs.Console.Agreement
import GestureScript.Proofs.Pipeline.Account

/-!
# Exit codes and summaries of runs

A run ends in an exit code and in a summary, whatever capability its commands are handed to.
Both come from what the run returned, while the statuses come from the sink. The account of
the run ties the two together: it has the dispatches that both of them tell of.
-/

set_option autoImplicit false

namespace GestureScript.Console.Session

variable {σ : Type}

theorem runExitCode_verdicts (limit : Binary64) (ds : List Pipeline.Dispatch) :
    runExitCode (ds.map (Pipeline.Dispatch.verdict limit)) =
      if ds.all (·.succeeded) then 0 else 1 := by
  have hany : (ds.map (Pipeline.Dispatch.verdict limit)).any (·.isFailure) =
      !ds.all (·.succeeded) := by
    rw [List.any_map, List.not_all_eq_any_not]
    congr 1
    funext d
    exact congrArg not (d.isSuccess_verdict limit)
  rw [runExitCode, hany]
  cases ds.all (·.succeeded) <;> rfl

theorem text_summary_verdicts (limit : Binary64) (ds : List Pipeline.Dispatch) :
    Layout.text (summaryChars (ds.map (Pipeline.Dispatch.verdict limit))) =
      (summary (ds.countP (·.succeeded)) ds.length).toList := by
  rw [text_summaryChars, Pipeline.countP_verdict, List.length_map]

/-- A run that no pause and no wait cuts short returns what became of its dispatches, which it
made in the order of the script. If they were all settled, the sink was told of them and of
nothing else, also when everything was shut down. -/
theorem exists_account (w : Worker σ) (state : σ) {settings : Settings}
    (hwait : Clock.waitFault? settings.resultTimeout = none)
    (hpause : settings.commandDelay.isPositive = true →
      Clock.sleepFault? settings.commandDelay = none) (keepGoing : Bool)
    (commands : List Command) :
    let start := Pipeline.withCapability settings (.listening fun _ => false) Clock.sleepFault?
      { state := state }
    ∃ ds p, start.runCommands w (!keepGoing) commands =
        (.ok (ds.map (Pipeline.Dispatch.verdict settings.resultTimeout)), p) ∧
      p.dispatches = ds ∧ ds.map (·.command) <+: commands ∧
      (keepGoing = true ∨ (∀ d ∈ ds, d.succeeded = true) → ds.map (·.command) = commands) ∧
      ((∀ d ∈ ds, d.outcome.isSome) →
        p.shutDown.statuses = ds.flatMap Pipeline.Dispatch.statuses) := by
  intro start
  have hreachable : ∀ cap ∈ start.fleet, cap.gate.Reachable := by
    intro cap hcap
    obtain rfl := List.mem_singleton.mp hcap
    exact .refl _
  have hanswered : start.Answered := by
    intro cap hcap
    obtain rfl := List.mem_singleton.mp hcap
    simp
  obtain ⟨ds, p, hrun, hadds, hpre, hall⟩ :=
    Pipeline.exists_adds_runCommands w (!keepGoing) commands hreachable ⟨hwait, hpause⟩
  refine ⟨ds, p, hrun, hadds.dispatches, hpre, fun hgoes => ?_, fun hsettled => ?_⟩
  · apply hpre.eq_of_length
    rw [List.length_map]
    exact hall (hgoes.imp_left fun hkeeps => by rw [hkeeps]; rfl)
  · have hshut := (hadds.answered hsettled hanswered).statuses_shutDown
      (hadds.fleet.reachable hreachable)
    exact hshut.trans (hadds.statuses (fun _ => false) rfl)

/-- Whatever the capability: a run dispatches the commands of its script in order, all of them
unless it stops at a failure. It fails if some dispatch did not succeed in time, and its
summary counts those that did among all. If all were settled in time, the summary counts the
successes that the sink was told of, and the run fails just when the sink was told of a
failure. Without any command nothing fails. -/
theorem run_accounted (w : Worker σ) (state : σ) {settings : Settings}
    (hhistory : 1 ≤ settings.historySize)
    (hwait : Clock.waitFault? settings.resultTimeout = none)
    (hpause : settings.commandDelay.isPositive = true →
      Clock.sleepFault? settings.commandDelay = none) (keepGoing : Bool) (script : String) :
    let commands := Script.commands settings script
    let start := Pipeline.withCapability settings (.listening fun _ => false) Clock.sleepFault?
      { state := state }
    let ended := (start.runCommands w (!keepGoing) commands).2
    let told := ended.shutDown.statuses
    let report := runOn w state settings keepGoing script
    ended.dispatches.map (·.command) <+: commands ∧
      (keepGoing = true ∨ (∀ d ∈ ended.dispatches, d.succeeded = true) →
        ended.dispatches.map (·.command) = commands) ∧
      report.ending = .exited (if ended.dispatches.all (·.succeeded) then 0 else 1) ∧
      report.output = told.flatMap (Layout.text ∘ statusChars) ++
        (summary (ended.dispatches.countP (·.succeeded)) ended.dispatches.length).toList ∧
      ((∀ d ∈ ended.dispatches, d.outcome.isSome) →
        ended.dispatches.countP (·.succeeded) = told.countP (fun s => s.kind = .succeeded) ∧
        (report.ending = .exited 1 ↔ ∃ s ∈ told, s.kind = .failed)) ∧
      (commands = [] → report.ending = .exited 0) := by
  intro commands start ended told report
  obtain ⟨ds, p, hrun, hds, hpre, hall, hstatuses⟩ :=
    exists_account w state hwait hpause keepGoing commands
  have hended : ended = p := congrArg Prod.snd hrun
  have hreport : report = reportOf (start.runCommands w (!keepGoing) commands) :=
    runOn_eq w state hhistory keepGoing script
  rw [hrun, reportOf] at hreport
  have hending : report.ending = .exited (if ds.all (·.succeeded) then 0 else 1) := by
    rw [hreport, ← runExitCode_verdicts]
  have htold : told = p.shutDown.statuses := by rw [← hended]
  rw [hended, hds, htold]
  refine ⟨hpre, hall, hending, ?_, fun hsettled => ?_, fun hnone => ?_⟩
  · rw [hreport, ← text_summary_verdicts]
  · rw [hstatuses hsettled, Pipeline.countP_statuses, Pipeline.exists_failed_iff hsettled, hending]
    refine ⟨rfl, ?_⟩
    cases hsucceeded : ds.all (·.succeeded) <;> simpa using hsucceeded
  · have hnil : ds = [] := by
      rw [hnone] at hpre
      simpa using hpre
    rw [hending, hnil]
    rfl

/-- The first press succeeds, the second does not, and the run goes on to its end. -/
theorem run_of_two_presses :
    let w : Worker Nat :=
      { isReady := fun n => (true, n)
        perform := fun _ n => (⟨[], if n = 0 then .returned (.success ⟨"pressed", none⟩)
          else .raised (.refused .dispatchFailed "stuck"), false⟩, n + 1) }
    let report := runOn w 0 .default true "back\n# at last\nhome"
    (1 : Int) ≤ Settings.default.historySize ∧
      Clock.waitFault? Settings.default.resultTimeout = none ∧
      report.ending = .exited 1 ∧
      report.output = ("  → Executing: Press Back\n  ✓ pressed\n" ++
        "  → Executing: Press Home\n  ✗ stuck [dispatch_failed]\n" ++ summary 1 2).toList := by
  intro w report
  have hhistory : (1 : Int) ≤ Settings.default.historySize := by decide
  have hwait : Clock.waitFault? Settings.default.resultTimeout = none := by decide +kernel
  obtain ⟨_, _, hending, houtput, _, _⟩ :=
    run_accounted w 0 hhistory hwait (fun _ => by decide +kernel) true "back\n# at last\nhome"
  refine ⟨hhistory, hwait, ?_, ?_⟩
  · rw [hending]
    decide +kernel
  · rw [houtput]
    decide +kernel

/-- A run in which nothing ran does not fail. -/
theorem run_of_nothing_succeeds :
    ¬ ∀ script, Script.commands .default script = [] →
      (run .default (rig true none) false script).ending = .exited 1 := by
  intro h
  have hnone : Script.commands .default "# nothing\nfly away" = [] := by decide +kernel
  have hending : (run .default (rig true none) false "# nothing\nfly away").ending =
      .exited 0 := by decide +kernel
  cases hending.symm.trans (h _ hnone)

end GestureScript.Console.Session
