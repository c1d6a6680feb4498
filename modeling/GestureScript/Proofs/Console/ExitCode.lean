import GestureScript.Main
import GestureScript.Proofs.Console.Agreement
import GestureScript.Proofs.Console.Signs
import GestureScript.Proofs.Pipeline.Pace
import GestureScript.Proofs.Settings.Environment

/-!
# Exit codes

A session that leaves the desktop alone ends in an exit code, unless its script is no text, a
text to type is taken for markup, the settings do not fit, or a command lags that the clock
makes no wait for. A complaint about a script that cannot be read is always shown.
-/

set_option autoImplicit false

namespace GestureScript

theorem Clock.waitFault?_eq_none_iff (seconds : Binary64) :
    waitFault? seconds = none ↔ (seconds.isPositive = true → sleepFault? seconds = none) := by
  unfold waitFault?
  split <;> simp [*]

namespace Console

open Markup Text

namespace Session

/-! ## Complaints -/

/-- The color of a complaint. -/
def red : List Char := "#f85149".toList

theorem read_red : Style.read red = .ok (some { color := some red }) := by
  have hnone : trim red ≠ "none".toList := by decide +kernel
  have hwords : words red = [red] := by decide +kernel
  have hlower : lower red = red := by decide +kernel
  have hplain : lower red ∉ ["on".toList, "not".toList, "link".toList] := by decide +kernel
  have hattribute : Style.attribute? (lower red) = none := by decide +kernel
  have hcolor : isColor (lower red) = .ok true := by
    have hred : red = '#' :: "f85149".toList := by decide
    rw [hlower, hred]
    exact isColor_hex rfl (by decide)
  rw [Style.read, if_neg hnone, hwords, Style.readWords_of_color hplain hattribute hcolor, hlower]
  rfl

theorem normal_red : Style.normal red = .ok red := by
  have hwritten : Style.written { color := some red } = red := by decide +kernel
  rw [Style.normal, read_red]
  exact congrArg Except.ok hwritten

/-- After its first tag a complaint is a text made plain, and the end of the color. -/
theorem exists_complaint_eq (message : String) :
    ∃ cs n, complaint message =
      "  ".toList ++ (tagText 0 red ++ (escapeFrom 0 cs ++ tagText n ['/'])) := by
  let spoken := "Cannot read script: ".toList
  have hstart : "  [#f85149]Cannot read script: ".toList =
      "  ".toList ++ (tagText 0 red ++ spoken) := by decide +kernel
  have hspoken : spoken ++ escapeFrom 0 message.toList = escapeFrom 0 (spoken ++ message.toList) :=
    (escapeFrom_append (by decide) _).symm
  have hend : ∃ n, Markup.escape message.toList ++ "[/]".toList =
      escapeFrom 0 message.toList ++ tagText n ['/'] := by
    unfold Markup.escape
    dsimp only
    split
    · exact ⟨1, by simp [tagText]⟩
    · exact ⟨0, by simp [tagText]⟩
  obtain ⟨n, hn⟩ := hend
  refine ⟨spoken ++ message.toList, n, ?_⟩
  calc complaint message
      = "  [#f85149]Cannot read script: ".toList ++
          (Markup.escape message.toList ++ "[/]".toList) := List.append_assoc _ _ _
    _ = "  ".toList ++ (tagText 0 red ++ spoken) ++
          (escapeFrom 0 message.toList ++ tagText n ['/']) := congrArg₂ _ hstart hn
    _ = _ := by rw [← hspoken]; simp only [List.append_assoc]

/-- What is rendered of a complaint when its color was begun. -/
def begun : Rendering :=
  { texts := ["  ".toList], length := 2, opened := [⟨red, none, 2⟩] }

theorem applyTag_red :
    (({} : Rendering).write "  ".toList).applyTag 2 ⟨red, none⟩ = .ok begun := by
  change (Style.normal red).mapError _ >>= _ = _
  rw [normal_red]
  rfl

theorem exists_shown_complaint (message : String) :
    ∃ text, Markup.shown (complaint message) = .ok text := by
  obtain ⟨cs, n, hcomplaint⟩ := exists_complaint_eq message
  let rest := cut 11 0 [] (escapeFrom 0 cs ++ tagText n ['/'])
  have hbody : IsBody red := ⟨⟨'#', "f85149".toList, rfl, rfl⟩, by decide⟩
  have hpieces : pieces (complaint message) =
      .plain "  ".toList :: .tag 2 ⟨red, none⟩ :: rest := by
    rw [hcomplaint, pieces, cut_append (by decide), cut_tagText hbody]
    rfl
  have htags : (tags rest).Sublist [endTag] := tags_cut_escapeFrom cs n 11 []
  have huses : begun.Uses red := ⟨by decide, by decide⟩
  have hends : ∀ t ∈ tags rest, t = endTag := fun t ht => List.mem_singleton.mp (htags.subset ht)
  obtain ⟨r, hrest, hr⟩ := huses.foldlM_add hends htags.length_le
  have hrender : render (complaint message) = .ok r := by
    have hspaces : Layout.visible (Emoji.replaceCodes "  ".toList) = "  ".toList := by
      decide +kernel
    have hplain : ({} : Rendering).add (.plain "  ".toList) =
        .ok (Rendering.write {} "  ".toList) := by
      rw [Rendering.add, hspaces]
    have htag : (Rendering.write {} "  ".toList).add (.tag 2 ⟨red, none⟩) = .ok begun :=
      applyTag_red
    rw [render, hpieces, Rendering.foldlM_add_cons hplain, Rendering.foldlM_add_cons htag]
    exact hrest
  exact ⟨r.text, hr.shown hrender read_red⟩

/-! ## Listings -/

theorem listing_cons_eq_ok_iff (c : Command) (cs : List Command) (output : List Char) :
    listing (c :: cs) = .ok output ↔ ∃ text rest, Markup.shown c.displayChars = .ok text ∧
      listing cs = .ok rest ∧ output = Layout.text text ++ rest := by
  unfold listing
  rw [List.mapM_cons]
  cases hshown : Markup.shown c.displayChars with
  | error f => simp [Except.map, bind, Except.bind]
  | ok text =>
    cases hrest : cs.mapM fun c => Markup.shown c.displayChars with
    | error f => simp [Except.map, bind, Except.bind]
    | ok texts => simp [Except.map, bind, Except.bind, pure, Except.pure, eq_comm]

theorem exists_listing_iff_forall (commands : List Command) :
    (∃ output, listing commands = .ok output) ↔
      ∀ c ∈ commands, ∃ text, Markup.shown c.displayChars = .ok text := by
  induction commands with
  | nil => exact ⟨fun _ => by simp, fun _ => ⟨[], rfl⟩⟩
  | cons c cs ih =>
    simp only [listing_cons_eq_ok_iff, List.forall_mem_cons, ← ih]
    constructor
    · rintro ⟨_, text, rest, htext, hrest, -⟩
      exact ⟨⟨text, htext⟩, rest, hrest⟩
    · rintro ⟨⟨text, htext⟩, rest, hrest⟩
      exact ⟨_, text, rest, htext, hrest, rfl⟩

/-- Only texts to type keep commands from being listed. -/
theorem exists_listing_iff (commands : List Command) :
    (∃ shown, listing commands = .ok shown) ↔
      ∀ text commit clear, .typeText text commit clear ∈ commands →
        ∃ shown, Markup.shown (Command.typeText text commit clear).displayChars = .ok shown := by
  rw [exists_listing_iff_forall]
  refine ⟨fun h text commit clear hmem => h _ hmem, fun h c hc => ?_⟩
  by_cases htyped : ∃ text commit clear, c = .typeText text commit clear
  · obtain ⟨text, commit, clear, rfl⟩ := htyped
    exact h text commit clear hc
  · have hsigns : signs c.displayChars = 0 :=
      Command.signs_displayChars fun text commit clear heq => htyped ⟨text, commit, clear, heq⟩
    exact ⟨_, shown_of_untagged (isUntagged_of_signs hsigns)⟩

/-! ## Dry runs -/

theorem run_broken {settings : Settings} (h : ¬ 1 ≤ settings.historySize) (r : Rig)
    (keepGoing : Bool) (script : String) (pace : Submission → Rig → Pace) :
    (run settings r keepGoing script pace).ending = .broken .historyTooSmall := by
  have hsmall : settings.historySize < 1 := by omega
  rw [run, runOn, Pipeline.create?, Monitor.create?, if_pos hsmall]

theorem reportOf_exited_iff {σ : Type} (answer : Except Fault (List Outcome) × Pipeline σ)
    (code : Nat) : (reportOf answer).ending = .exited code ↔
      ∃ failed, Pipeline.EndsWith answer failed ∧ code = if failed = true then 1 else 0 := by
  obtain ⟨made, p⟩ := answer
  cases made with
  | error f => simp [reportOf, Pipeline.EndsWith]
  | ok os =>
    have hending : (reportOf (.ok os, p)).ending = .exited (runExitCode os) := rfl
    rw [hending, Ending.exited.injEq]
    constructor
    · rintro rfl
      exact ⟨_, ⟨os, rfl, rfl⟩, rfl⟩
    · rintro ⟨_, ⟨_, ⟨⟩, rfl⟩, rfl⟩
      rfl

/-- Does a command lag in a dry run? -/
def dryRunLags (settings : Settings) (pace : Submission → Rig → Pace)
    (commands : List Command) : Bool :=
  Rig.worker.lags settings.resultTimeout pace commands (.dryRun {})

/-- What a dry run of some commands takes to come to its end: a monitor with room, a clock that
can count the pauses that the run gets to, and the wait for a command that lags. -/
structure DryRunCompletes (settings : Settings) (pace : Submission → Rig → Pace)
    (keepGoing : Bool) (commands : List Command) : Prop where
  history : 1 ≤ settings.historySize
  pauses : 2 ≤ commands.length → ¬(keepGoing = false ∧
    Rig.worker.lagsAtOnce settings.resultTimeout pace commands (.dryRun {}) = true) →
      Clock.waitFault? settings.commandDelay = none
  waits : dryRunLags settings pace commands = true →
    Clock.waitFault? settings.resultTimeout = none

theorem run_dryRun_exited_iff (settings : Settings) (workplace : Option Workplace)
    (keepGoing : Bool) (script : String) (pace : Submission → Rig → Pace) (code : Nat) :
    let commands := Script.commands settings script
    (run settings (rig true workplace) keepGoing script pace).ending = .exited code ↔
      DryRunCompletes settings pace keepGoing commands ∧
        code = if dryRunLags settings pace commands = true then 1 else 0 := by
  intro commands
  by_cases hhistory : 1 ≤ settings.historySize
  · let start := Pipeline.withCapability settings (.listening fun _ => false) Clock.sleepFault?
      { state := rig true workplace }
    have hserves : start.Serves 0 { state := rig true workplace } Rig.IsDryRun :=
      Pipeline.serves_withCapability settings _ _ ⟨{}, rfl⟩
    have hreachable : ∀ cap ∈ start.fleet, cap.gate.Reachable := by
      intro cap hcap
      obtain rfl := List.mem_singleton.mp hcap
      exact .refl _
    have hends := hserves.endsWith_iff Rig.dryRun_obliges pace (!keepGoing) commands hreachable rfl
    have hpauses : start.Pauses ↔ Clock.waitFault? settings.commandDelay = none :=
      (Clock.waitFault?_eq_none_iff _).symm
    rw [run_eq hhistory, reportOf_exited_iff]
    constructor
    · rintro ⟨failed, hfailed, rfl⟩
      obtain ⟨hmade, hwaits, rfl⟩ := (hends failed).mp hfailed
      refine ⟨⟨hhistory, fun hmany hgoes => hpauses.mp (hmade hmany fun hstops => ?_), hwaits⟩,
        rfl⟩
      exact hgoes ⟨by simpa using hstops.1, hstops.2⟩
    · rintro ⟨hcompletes, rfl⟩
      refine ⟨_, (hends _).mpr ⟨fun hmany hgoes => hpauses.mpr (hcompletes.pauses hmany
        fun hstops => ?_), hcompletes.waits, rfl⟩, rfl⟩
      exact hgoes ⟨by simpa using hstops.1, hstops.2⟩
  · rw [run_broken hhistory]
    refine iff_of_false nofun fun h => hhistory h.1.history

/-! ## Sessions -/

/-- Dry runs and listings leave the desktop alone. -/
def SparesDesktop : Task → Prop
  | .run dryRun _ => dryRun = true
  | .parse _ => True

/-- What such a task takes to come to its end with some commands. A listing takes texts to type
that can be read as markup, and a listing as data takes integers that can be written. -/
def Completes (settings : Settings) (pace : Submission → Rig → Pace)
    (commands : List Command) : Task → Prop
  | .run _ keepGoing => DryRunCompletes settings pace keepGoing commands
  | .parse true => ∀ c ∈ commands, c.IsShort
  | .parse false => ∀ text commit clear, .typeText text commit clear ∈ commands →
      ∃ shown, Markup.shown (Command.typeText text commit clear).displayChars = .ok shown

/-- Integers of the environment can be written, so that any script can be listed as data. -/
theorem completes_listing_of_environment (platform : Platform) (env : Environment)
    (pace : Submission → Rig → Pace) (script : String) :
    Completes (.ofEnvironment platform env) pace
      (Script.commands (.ofEnvironment platform env) script) (.parse true) := by
  intro c hc n hn
  obtain ⟨line, hline⟩ := Script.exists_means hc
  refine (hline.integers_short hn).elim id fun hstandard => ?_
  simp only [Command.standardDurations, List.mem_cons, List.not_mem_nil, or_false] at hstandard
  rcases hstandard with rfl | rfl | rfl
  · exact Settings.isShort_of_get_ofEnvironment (f := .tapDuration) rfl
  · exact Settings.isShort_of_get_ofEnvironment (f := .swipeDuration) rfl
  · exact Settings.isShort_of_get_ofEnvironment (f := .scrollDuration) rfl

/-- The exit code of such a task. -/
def exitCode (settings : Settings) (pace : Submission → Rig → Pace) (commands : List Command) :
    Task → Nat
  | .run _ _ => if dryRunLags settings pace commands = true then 1 else 0
  | .parse _ => 0

theorem isWritable_listedData_iff (commands : List Command) :
    (listedData commands).isWritable = true ↔ ∀ c ∈ commands, c.IsShort := by
  rw [listedData, Json.isWritable, Json.areWritable_iff, List.forall_mem_map]
  exact forall₂_congr fun c _ => c.isWritable_toJson_iff

theorem parse_exited_iff (settings : Settings) (pace : Submission → Rig → Pace) (asJson : Bool)
    (script : String) (code : Nat) :
    (parse settings asJson script).ending = .exited code ↔
      Completes settings pace (Script.commands settings script) (.parse asJson) ∧ code = 0 := by
  cases asJson with
  | true =>
    rw [parse, if_pos rfl, Completes, ← isWritable_listedData_iff]
    split
    next hwritable =>
      rw [Ending.exited.injEq]
      exact ⟨fun heq => ⟨hwritable, heq.symm⟩, fun h => h.2.symm⟩
    next hlong => exact ⟨nofun, fun h => absurd h.1 hlong⟩
  | false =>
    rw [parse, if_neg Bool.false_ne_true, Completes, ← exists_listing_iff]
    split
    next shown hshown =>
      rw [Ending.exited.injEq]
      exact ⟨fun heq => ⟨⟨shown, hshown⟩, heq.symm⟩, fun h => h.2.symm⟩
    next f hf =>
      refine ⟨nofun, ?_⟩
      rintro ⟨⟨shown, hshown⟩, -⟩
      cases hf.symm.trans hshown

theorem ending_unreadable (settings : Settings) (workplace : Option Workplace) (task : Task)
    (path : String) (f : FileFault) (pace : Submission → Rig → Pace) :
    (report settings workplace task (.unreadable path f) pace).ending = .exited 2 := by
  obtain ⟨shown, hshown⟩ := exists_shown_complaint (f.message path)
  have hreport : report settings workplace task (.unreadable path f) pace =
      unread (Markup.shown (complaint (f.message path))) := rfl
  rw [hreport, hshown]
  rfl

end Session

end Console

end GestureScript
