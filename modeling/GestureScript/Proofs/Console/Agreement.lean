import GestureScript.Console.Session
import GestureScript.Proofs.Command.Written
import GestureScript.Proofs.Pipeline.DryRun

/-!
# Dry runs and listings of a script

The commands of a script can be had in three ways: run on a worker that only records them, run
in a dry session of the console, and listed as data. All three have the same commands.
-/

set_option autoImplicit false

namespace GestureScript

/-! ## Plain lines in a console -/

namespace Console.Layout

/-- A line of characters that are shown as they are. -/
def IsPlain (cs : List Char) : Prop := ∀ c ∈ cs, isDropped c = false ∧ c ≠ '\t' ∧ c ≠ '\n'

instance : DecidablePred IsPlain := fun cs =>
  decidable_of_iff (cs.all fun c => !isDropped c && c != '\t' && c != '\n') <| by
    simp [IsPlain, and_assoc]

theorem text_of_plain {cs : List Char} (h : IsPlain cs) : text cs = cs ++ ['\n'] := by
  have hvisible : visible cs = cs := List.filter_eq_self.mpr fun c hc => by simp [(h c hc).1]
  have hline : line cs = cs := line_of_no_tab fun hc => (h '\t' hc).2.1 rfl
  rw [text, hvisible, Text.splitOn_of_not_mem fun hc => (h '\n' hc).2.2 rfl]
  simp [hline]

theorem text_newline (cs : List Char) : text ('\n' :: cs) = '\n' :: text cs := by
  have hvisible : visible ('\n' :: cs) = '\n' :: visible cs :=
    List.filter_cons_of_pos (by decide)
  rw [text, hvisible, Text.splitOn_cons_self, List.flatMap_cons, line_nil]
  rfl

theorem isPlain_toDigits (n : Nat) : IsPlain (Nat.toDigits 10 n) := by
  intro c hc
  obtain ⟨hlow, -⟩ := (Numeral.isDigits_toDigits n).2 c hc
  have hlow' : 48 ≤ c.toNat := hlow
  refine ⟨?_, ?_, ?_⟩
  · simp only [isDropped, Bool.or_eq_false_iff, beq_eq_false_iff_ne]
    omega
  · rintro rfl
    exact absurd hlow' (by decide)
  · rintro rfl
    exact absurd hlow' (by decide)

end Console.Layout

namespace Console.Session

/-- What is shown at the end when all of some commands succeeded. -/
def allSucceeded (n : Nat) : String :=
  "\n  " ++ toString n ++ "/" ++ toString n ++ " commands succeeded\n"

/-- What is shown at the end of any run. -/
def summary (succeeded total : Nat) : String :=
  "\n  " ++ toString succeeded ++ "/" ++ toString total ++ " commands succeeded\n"

theorem text_summaryChars (outcomes : List Outcome) :
    Layout.text (summaryChars outcomes) =
      (summary (outcomes.countP (·.isSuccess)) outcomes.length).toList := by
  unfold summaryChars
  generalize outcomes.countP (·.isSuccess) = m
  generalize outcomes.length = n
  let shown := "  ".toList ++
    (Nat.toDigits 10 m ++ ("/".toList ++ (Nat.toDigits 10 n ++ " commands succeeded".toList)))
  have hplain : Layout.IsPlain shown := by
    have hblanks : Layout.IsPlain "  ".toList := by decide
    have hslash : Layout.IsPlain "/".toList := by decide
    have hend : Layout.IsPlain " commands succeeded".toList := by decide
    simp only [shown, Layout.IsPlain, List.forall_mem_append]
    exact ⟨hblanks, Layout.isPlain_toDigits m, hslash, Layout.isPlain_toDigits n, hend⟩
  have hsummary : "\n  ".toList ++ Nat.toDigits 10 m ++
      '/' :: Nat.toDigits 10 n ++ " commands succeeded".toList = '\n' :: shown := by
    simp [shown]
  rw [hsummary, Layout.text_newline, Layout.text_of_plain hplain]
  simp [summary, shown]

theorem text_summaryChars_of_success {outcomes : List Outcome}
    (h : ∀ o ∈ outcomes, o.isSuccess = true) :
    Layout.text (summaryChars outcomes) = (allSucceeded outcomes.length).toList := by
  rw [text_summaryChars, List.countP_eq_length.mpr h]
  rfl

theorem runExitCode_of_success {outcomes : List Outcome} (h : ∀ o ∈ outcomes, o.isSuccess = true) :
    runExitCode outcomes = 0 := by
  have hnone : outcomes.any (·.isFailure) = false := by
    rw [List.any_eq_false]
    intro o ho
    simp [Outcome.isFailure, h o ho]
  rw [runExitCode, hnone]
  rfl

/-! ## Listings -/

theorem fits_listedData {P : Int → Prop} {commands : List Command}
    (h : ∀ c ∈ commands, ∀ n ∈ c.integers, P n) : Json.Fits P (listedData commands) := by
  rw [listedData, Json.Fits, Json.fitItems_iff, List.forall_mem_map]
  exact fun c hc => Command.fits_toJson (h c hc)

/-- The commands are read back from their listing. -/
theorem read?_jsonListing {l : Json.Limits} {commands : List Command}
    (hintegers : ∀ c ∈ commands, ∀ n ∈ c.integers, (Numeral.written n).length ≤ l.whole)
    (hdepth : 4 ≤ l.depth) :
    Json.read? l (jsonListing commands) = some (listedData commands) := by
  have hfits : Json.Fits l.Takes (listedData commands) := fits_listedData hintegers
  have hwritten : (listedData commands).depth ≤ 4 := by
    rw [listedData, Json.depth, Json.depthItems_le_iff, List.forall_mem_map]
    exact fun c _ => Nat.lt_succ_of_le c.depth_toJson_le
  have hgap : Json.IsGap ['\n'] := by simp [Json.IsGap, Json.isSpace]
  exact (Json.spells_indentedChars 0 _ hfits).read?_eq hgap (hwritten.trans hdepth)

/-! ## The three ways -/

/-- What a sink hears of commands that are only recorded. -/
def recordedStatuses (commands : List Command) : List Status :=
  commands.flatMap fun c =>
    [⟨.dispatched, "Executing: " ++ c.display, some c.display, none⟩,
      ⟨.succeeded, "Dry run: " ++ c.display, some c.display, none⟩]

theorem transcript_dryRun (commands : List Command) :
    Pipeline.transcript (commands.map fun c => (c, DryRun.outcome c)) =
      recordedStatuses commands := by
  rw [Pipeline.transcript, List.flatMap_map]
  rfl

/-- What a session shows of a run, after which everything is shut down. -/
def reportOf {σ : Type} (answer : Except Fault (List Outcome) × Pipeline σ) : Report :=
  let p := answer.2.shutDown
  let shown := p.statuses.flatMap (Layout.text ∘ statusChars)
  match answer.1 with
  | .error f => { ending := .broken f, output := shown, calls := p.calls }
  | .ok outcomes =>
    { ending := .exited (runExitCode outcomes)
      output := shown ++ Layout.text (summaryChars outcomes)
      calls := p.calls }

theorem runOn_eq {σ : Type} (w : Worker σ) (state : σ) {settings : Settings}
    (h : 1 ≤ settings.historySize) (keepGoing : Bool) (script : String) :
    runOn w state settings keepGoing script =
      reportOf ((Pipeline.withCapability settings (.listening fun _ => false) Clock.sleepFault?
        { state := state }).runCommands w (!keepGoing) (Script.commands settings script)) := by
  rw [runOn, Pipeline.create?_eq h]
  rfl

theorem run_eq {settings : Settings} (h : 1 ≤ settings.historySize) (r : Rig) (keepGoing : Bool)
    (script : String) (pace : Submission → Rig → Pace) : run settings r keepGoing script pace =
      reportOf ((Pipeline.withCapability settings (.listening fun _ => false) Clock.sleepFault?
        { state := r }).runCommands (Rig.worker.paced settings.resultTimeout pace) (!keepGoing)
          (Script.commands settings script)) :=
  runOn_eq _ r h keepGoing script

/-- A dry session goes through all commands of a script. -/
theorem run_dryRun {settings : Settings} (hhistory : 1 ≤ settings.historySize)
    {pace : Submission → Rig → Pace}
    (hpace : ∀ s r, (pace s r).outlasts settings.resultTimeout = false)
    (hclock : settings.commandDelay.isPositive = true →
      Clock.sleepFault? settings.commandDelay = none)
    (workplace : Option Workplace) (keepGoing : Bool) (script : String) :
    let commands := Script.commands settings script
    let report := run settings (rig true workplace) keepGoing script pace
    report.ending = .exited 0 ∧ report.output =
      (recordedStatuses commands).flatMap (Layout.text ∘ statusChars) ++
        (allSucceeded commands.length).toList := by
  intro commands report
  let start := Pipeline.withCapability settings (.listening fun _ => false) Clock.sleepFault?
    { state := rig true workplace }
  have hserves : start.Serves 0 { state := rig true workplace } Rig.IsDryRun :=
    Pipeline.serves_withCapability settings _ _ ⟨{}, rfl⟩
  obtain ⟨houtcomes, hstatuses, cap, hlast, -⟩ :=
    hserves.obliged Rig.dryRun_obliges (!keepGoing) commands rfl hclock
  have hsuccess : ∀ o ∈ commands.map DryRun.outcome, o.isSuccess = true := by
    intro o ho
    obtain ⟨c, -, rfl⟩ := List.mem_map.mp ho
    rfl
  have hreport : report = reportOf (start.runCommands Rig.worker (!keepGoing) commands) := by
    rw [← Rig.worker.paced_eq_self hpace]
    exact run_eq hhistory _ _ _ _
  rw [hreport, reportOf, houtcomes]
  dsimp only
  rw [runExitCode_of_success hsuccess, hlast.statuses_shutDown, hstatuses, transcript_dryRun,
    text_summaryChars_of_success hsuccess, List.length_map]
  exact ⟨rfl, rfl⟩

/-- Whatever the script says and however the sink takes it: run on a worker that records, in
either stop mode and at any pace that outlasts no wait, each command ends in a success, is
recorded and is told of twice. A dry session shows just that and ends well, with all commands
in its summary. And the listing as data holds the commands, each of which is read from it as it
is, if the durations that come from the settings can be written. -/
theorem dry_runs_and_listing_agree {settings : Settings} (hhistory : 1 ≤ settings.historySize)
    {pace : Submission → DryRun → Pace}
    (hpace : ∀ s d, (pace s d).outlasts settings.resultTimeout = false)
    {rigPace : Submission → Rig → Pace}
    (hrigPace : ∀ s r, (rigPace s r).outlasts settings.resultTimeout = false)
    {pauseFault? : Binary64 → Option Fault}
    (hpause : settings.commandDelay.isPositive = true → pauseFault? settings.commandDelay = none)
    (hclock : settings.commandDelay.isPositive = true →
      Clock.sleepFault? settings.commandDelay = none)
    {l : Json.Limits} (hwhole : Numeral.digitLimit + 1 ≤ l.whole)
    (hdepth : 4 ≤ l.depth) (fails : Status → Bool) (workplace : Option Workplace)
    (stopOnFailure keepGoing : Bool) (script : String) :
    let commands := Script.commands settings script
    let dry := run settings (rig true workplace) keepGoing script rigPace
    let listed := parse settings true script
    (∃ p p' : Pipeline DryRun, Pipeline.create? settings (.listening fails) = .ok p ∧
      ({ p with pauseFault? := pauseFault? }.attach (some { state := ({} : DryRun) })).runScript
        (DryRun.worker.paced settings.resultTimeout pace) stopOnFailure script =
          (.ok (commands.map fun c =>
            .success ⟨"Dry run: " ++ c.display, some [("kind", .text c.kind.name)]⟩), p') ∧
      p'.attachedCapability?.map (·.state.executed) = some commands ∧
      p'.statuses = recordedStatuses commands) ∧
    dry.ending = .exited 0 ∧
    dry.output = (recordedStatuses commands).flatMap (Layout.text ∘ statusChars) ++
      (allSucceeded commands.length).toList ∧
    ((∀ n ∈ Command.standardDurations settings, Numeral.IsShort n) →
      listed.ending = .exited 0 ∧
      ∃ items, Json.read? l listed.output = some (.array items) ∧
        items.map Command.ofJson = commands.map .valid) := by
  intro commands dry listed
  have hmeans : ∀ c ∈ commands, ∃ line, c.Means settings line := fun c hc =>
    Script.exists_means hc
  obtain ⟨hending, houtput⟩ := run_dryRun hhistory hrigPace hclock workplace keepGoing script
  refine ⟨?_, hending, houtput, fun hstandard => ?_⟩
  · let start := Pipeline.withCapability settings (.listening fails) pauseFault?
      { state := ({} : DryRun) }
    have hserves : start.Serves 0 { state := {} } (fun _ => True) :=
      Pipeline.serves_withCapability settings _ _ trivial
    obtain ⟨houtcomes, hstatuses, cap, hlast, hrecord⟩ :=
      hserves.obliged DryRun.obliges stopOnFailure commands rfl hpause
    rw [DryRun.worker.paced_eq_self hpace]
    refine ⟨_, (start.runCommands DryRun.worker stopOnFailure commands).2,
      Pipeline.create?_eq hhistory _, Prod.ext houtcomes rfl, ?_, ?_⟩
    · rw [Pipeline.attachedCapability?, hlast.attached, Option.bind_some, hlast.found]
      exact congrArg some hrecord
    · exact hstatuses.trans (transcript_dryRun commands)
  · have hshort : ∀ c ∈ commands, c.IsShort := by
      intro c hc n hn
      obtain ⟨line, hline⟩ := hmeans c hc
      exact (hline.integers_short hn).elim id (hstandard n)
    have hlisted : listed = { ending := .exited 0, output := jsonListing commands } :=
      if_pos (Json.isWritable_of_fits _ (fits_listedData hshort))
    rw [hlisted]
    refine ⟨rfl, commands.map Command.toJson, ?_, ?_⟩
    · exact read?_jsonListing (fun c hc n hn => (hshort c hc n hn).length_written_le.trans hwhole)
        hdepth
    · rw [List.map_map]
      refine List.map_congr_left fun c hc => ?_
      obtain ⟨line, hline⟩ := hmeans c hc
      exact Command.ofJson_toJson hline.wellFormed

/-- Texts with quotes, a comment, a line that is no command, and pauses in between. The first
command is over before anybody waits for it, and the others are waited for. -/
theorem five_lines_recorded :
    let script := "tap 1 -2\n# no\ninput [é]\"😀\nfoo\n swipe 0 0 +5 7 40"
    let commands : List Command :=
      [.tap [⟨1, -2⟩] 100, .typeText "[é]\"😀" false false, .swipe ⟨0, 0⟩ ⟨5, 7⟩ 40]
    let l : Json.Limits := ⟨4301, 4⟩
    let pace : Submission → DryRun → Pace := fun _ d => if d.executed = [] then .atOnce else .inTime
    let rigPace : Submission → Rig → Pace := fun _ _ => .inTime
    (1 : Int) ≤ Settings.default.historySize ∧
    (∀ s d, (pace s d).outlasts Settings.default.resultTimeout = false) ∧
    (∀ s r, (rigPace s r).outlasts Settings.default.resultTimeout = false) ∧
    Clock.sleepFault? Settings.default.commandDelay = none ∧
    Numeral.digitLimit + 1 ≤ l.whole ∧
    (∀ n ∈ Command.standardDurations .default, Numeral.IsShort n) ∧
    (run .default (rig true none) false script rigPace).output =
      (recordedStatuses commands).flatMap (Layout.text ∘ statusChars) ++
        "\n  3/3 commands succeeded\n".toList ∧
    ∃ items, Json.read? l (parse .default true script).output = some (.array items) ∧
      items.map Command.ofJson = commands.map .valid := by
  intro script commands l pace rigPace
  have hhistory : 1 ≤ Settings.default.historySize := by decide
  have hinTime : Pace.inTime.outlasts Settings.default.resultTimeout = false := by decide +kernel
  have hrigPace : ∀ s r, (rigPace s r).outlasts Settings.default.resultTimeout = false :=
    fun _ _ => hinTime
  have hpace : ∀ s d, (pace s d).outlasts Settings.default.resultTimeout = false := by
    intro s d
    by_cases hfirst : d.executed = []
    · simp [pace, hfirst, Pace.outlasts]
    · simpa [pace, hfirst] using hinTime
  have hclock : Clock.sleepFault? Settings.default.commandDelay = none := by decide +kernel
  have hstandard : ∀ n ∈ Command.standardDurations .default, Numeral.IsShort n := by
    decide +kernel
  have hcommands : Script.commands .default script = commands := by decide +kernel
  obtain ⟨-, -, houtput, hlisted⟩ := dry_runs_and_listing_agree hhistory hpace
    hrigPace (fun _ => hclock) (fun _ => hclock) (l := l) (by decide) (by decide)
    (fun _ => true) none true false script
  obtain ⟨-, hlisted⟩ := hlisted hstandard
  have hsummary : allSucceeded commands.length = "\n  3/3 commands succeeded\n" := by decide +kernel
  rw [hcommands, hsummary] at houtput
  rw [hcommands] at hlisted
  exact ⟨hhistory, hpace, hrigPace, hclock, by decide, hstandard, houtput, hlisted⟩

end Console.Session

end GestureScript
