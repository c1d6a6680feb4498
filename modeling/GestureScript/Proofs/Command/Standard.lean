import GestureScript.Proofs.Command.Locality
import GestureScript.Proofs.Command.Written
import GestureScript.Proofs.Settings.Environment
import Mathlib.Data.List.Forall2

/-!
# Durations that lines leave to the settings

A gesture lasts as long as its line says, and where the line is silent, as long as the
settings say. Nothing else of a command comes from the settings. But a gesture takes time:
where the settings give it none, its line is no command. So settings from the environment
understand every line that the default understands, unless one of three variables is below one.
-/

set_option autoImplicit false

namespace GestureScript

open Text

/-! ## Lines without a duration -/

/-- No duration stands at the start of these words. -/
def NoDuration (words : List (List Char)) : Prop := ∀ word ∈ words.head?, ¬Numeral.IsNumeral word

/-- Is a keyword that of a gesture, with no duration behind its other arguments? -/
def Keyword.OmitsDuration : Keyword → List (List Char) → Prop
  | .tap, _ :: _ :: more => NoDuration more
  | .swipe, _ :: _ :: _ :: _ :: more => NoDuration more
  | .scroll, _ :: more => NoDuration more
  | _, _ => False

theorem exists_of_omitsDuration_tap {words : List (List Char)}
    (h : Keyword.tap.OmitsDuration words) :
    ∃ a b more, words = a :: b :: more ∧ NoDuration more := by
  rcases words with _ | ⟨a, _ | ⟨b, more⟩⟩
  · cases h
  · cases h
  · exact ⟨a, b, more, rfl, h⟩

theorem exists_of_omitsDuration_swipe {words : List (List Char)}
    (h : Keyword.swipe.OmitsDuration words) :
    ∃ a b a' b' more, words = a :: b :: a' :: b' :: more ∧ NoDuration more := by
  rcases words with _ | ⟨a, _ | ⟨b, _ | ⟨a', _ | ⟨b', more⟩⟩⟩⟩
  · cases h
  · cases h
  · cases h
  · cases h
  · exact ⟨a, b, a', b', more, rfl, h⟩

theorem exists_of_omitsDuration_scroll {words : List (List Char)}
    (h : Keyword.scroll.OmitsDuration words) : ∃ a more, words = a :: more ∧ NoDuration more := by
  cases words with
  | nil => cases h
  | cons a more => exact ⟨a, more, rfl, h⟩

/-- The fields that hold the duration of a gesture. -/
def Settings.gestureDurations : List Settings.Field :=
  [.tapDuration, .swipeDuration, .scrollDuration]

/-- Every gesture takes time. -/
structure Settings.TakesTime (settings : Settings) : Prop where
  tap : 1 ≤ settings.tapDuration
  swipe : 1 ≤ settings.swipeDuration
  scroll : 1 ≤ settings.scrollDuration

theorem Settings.takesTime_default (platform : Platform) : (default platform).TakesTime := by
  cases platform with
  | commandKey => exact ⟨by decide, by decide, by decide⟩
  | controlKey => exact ⟨by decide, by decide, by decide⟩

theorem durationArgument?_of_noDuration {words : List (List Char)} (h : NoDuration words)
    (standard : Int) : durationArgument? standard words = some standard := by
  cases words with
  | nil => rfl
  | cons word more =>
    have hword := (Numeral.read_eq_notInteger_iff word).mpr (h word rfl)
    simp only [durationArgument?, hword]

theorem durationArgument?_of_not_noDuration {words : List (List Char)} (h : ¬NoDuration words)
    (standard standard' : Int) :
    durationArgument? standard words = durationArgument? standard' words := by
  cases words with
  | nil => exact absurd (by simp [NoDuration]) h
  | cons word more =>
    have hword : Numeral.read word ≠ .notInteger := by
      intro hread
      refine h ?_
      rintro w ⟨⟩
      exact (Numeral.read_eq_notInteger_iff word).mp hread
    cases hread : Numeral.read word with
    | notInteger => exact absurd hread hword
    | tooLong => simp only [durationArgument?, hread]
    | value n => simp only [durationArgument?, hread]

namespace Command

/-- The line is that of a gesture, and says nothing of how long it lasts. -/
def OmitsDuration (line : List Char) : Prop :=
  ∃ (word : List Char) (arguments : List (List Char)) (keyword : Keyword),
    Spaced line (word :: arguments) ∧ lower word = keyword.name.toList ∧
      keyword.OmitsDuration arguments

/-- The command, with the duration that the settings give to its gesture. -/
def lastingAsIn (settings : Settings) : Command → Command
  | .tap points _ => .tap points settings.tapDuration
  | .swipe start finish _ => .swipe start finish settings.swipeDuration
  | .scroll direction _ => .scroll direction settings.scrollDuration
  | c => c

/-- The commands differ at most in how long their gestures last. -/
def SameButDuration (a b : Command) : Prop := a.lastingAsIn .default = b.lastingAsIn .default

theorem sameButDuration_lastingAsIn (c : Command) (settings : Settings) :
    SameButDuration (c.lastingAsIn settings) c := by cases c <;> rfl

theorem WellFormed.lastingAsIn {c : Command} (h : c.WellFormed) {settings : Settings}
    (hsettings : settings.TakesTime) : (c.lastingAsIn settings).WellFormed := by
  cases c with
  | tap points duration => exact ⟨h.1, hsettings.tap⟩
  | swipe start finish duration => exact hsettings.swipe
  | scroll direction duration => exact hsettings.scroll
  | typeText | wait | press => exact h

theorem guarded_of_wellFormed {c : Command} (h : c.WellFormed) : c.guarded = some c :=
  (c.guarded_eq_some_iff c).mpr ⟨h, rfl⟩

/-! ## One line under two settings -/

section

variable {settings settings' : Settings} (rest : List Char) (keyword : Keyword)
  (words : List (List Char))

/-- Settings do not matter for arguments that say all. -/
theorem ofArguments?_of_not_omitsDuration (h : ¬keyword.OmitsDuration words) :
    ofArguments? settings rest keyword words = ofArguments? settings' rest keyword words := by
  cases keyword with
  | tap =>
    rcases words with _ | ⟨a, _ | ⟨b, more⟩⟩
    · rfl
    · rfl
    · simp only [ofArguments?, durationArgument?_of_not_noDuration h settings.tapDuration
        settings'.tapDuration]
  | swipe =>
    rcases words with _ | ⟨a, _ | ⟨b, _ | ⟨a', _ | ⟨b', more⟩⟩⟩⟩
    · rfl
    · rfl
    · rfl
    · rfl
    · simp only [ofArguments?, durationArgument?_of_not_noDuration h settings.swipeDuration
        settings'.swipeDuration]
  | scroll =>
    rcases words with _ | ⟨a, more⟩
    · rfl
    · simp only [ofArguments?, durationArgument?_of_not_noDuration h settings.scrollDuration
        settings'.scrollDuration]
  | input | wait => cases words <;> rfl
  | press => rfl

/-- Where the arguments tell no duration, the settings decide how long a gesture lasts, and
whether it takes time at all. -/
theorem ofArguments?_of_omitsDuration (hsettings' : settings'.TakesTime)
    (h : keyword.OmitsDuration words) : ofArguments? settings rest keyword words =
      (ofArguments? settings' rest keyword words).bind fun c =>
        (c.lastingAsIn settings).guarded := by
  cases keyword with
  | tap =>
    obtain ⟨a, b, more, rfl, hmore⟩ := exists_of_omitsDuration_tap h
    have hformed (x y : Int) : (tap [⟨x, y⟩] settings'.tapDuration).guarded = some _ :=
      guarded_of_wellFormed ⟨by simp, hsettings'.tap⟩
    simp only [ofArguments?, durationArgument?_of_noDuration hmore,
      Option.bind_eq_bind, Option.bind_some, Option.bind_assoc, hformed, lastingAsIn]
  | swipe =>
    obtain ⟨a, b, a', b', more, rfl, hmore⟩ := exists_of_omitsDuration_swipe h
    have hformed (p q : Point) : (swipe p q settings'.swipeDuration).guarded = some _ :=
      guarded_of_wellFormed hsettings'.swipe
    simp only [ofArguments?, durationArgument?_of_noDuration hmore,
      Option.bind_eq_bind, Option.bind_some, Option.bind_assoc, hformed, lastingAsIn]
  | scroll =>
    obtain ⟨a, more, rfl, hmore⟩ := exists_of_omitsDuration_scroll h
    have hformed (direction : Direction) :
        (scroll direction settings'.scrollDuration).guarded = some _ :=
      guarded_of_wellFormed hsettings'.scroll
    simp only [ofArguments?, durationArgument?_of_noDuration hmore,
      Option.bind_eq_bind, Option.bind_some, Option.bind_assoc, hformed, lastingAsIn]
  | input | wait | press => cases h

end

variable {settings settings' : Settings} {line : List Char}

theorem ofLine?_of_not_omitsDuration (h : ¬OmitsDuration line) :
    ofLine? settings line = ofLine? settings' line := by
  have hspaced := spaced_words line
  unfold ofLine?
  cases hwords : words line with
  | nil => rfl
  | cons word arguments =>
    cases hkeyword : Keyword.ofWord? word with
    | none => simp only [hkeyword]
    | some keyword =>
      simp only [hkeyword]
      apply ofArguments?_of_not_omitsDuration
      intro homits
      rw [hwords] at hspaced
      exact h ⟨word, arguments, keyword, hspaced, (ofWord?_eq_some_iff _ _).mp hkeyword, homits⟩

theorem ofLine?_of_omitsDuration (hsettings' : settings'.TakesTime) (h : OmitsDuration line) :
    ofLine? settings line =
      (ofLine? settings' line).bind fun c => (c.lastingAsIn settings).guarded := by
  obtain ⟨word, arguments, keyword, hwords, hword, homits⟩ := h
  rw [ofLine?_of_words _ keyword hwords hword, ofLine?_of_words _ keyword hwords hword]
  exact ofArguments?_of_omitsDuration _ keyword arguments hsettings' homits

/-- Settings that give every gesture some time understand the lines that the default does. -/
theorem rel_ofLine? (hsettings : settings.TakesTime) (line : List Char) :
    Option.Rel SameButDuration (ofLine? settings line) (ofLine? .default line) := by
  by_cases homits : OmitsDuration line
  · rw [ofLine?_of_omitsDuration (Settings.takesTime_default _) homits]
    cases hline : ofLine? .default line with
    | none => exact .none
    | some c =>
      have hformed : (c.lastingAsIn settings).WellFormed :=
        (Means.of_ofLine? hline).wellFormed.lastingAsIn hsettings
      rw [Option.bind_some, guarded_of_wellFormed hformed]
      exact .some (c.sameButDuration_lastingAsIn settings)
  · have hsame : ofLine? settings line = ofLine? .default line :=
      ofLine?_of_not_omitsDuration homits
    rw [hsame]
    cases ofLine? .default line with
    | none => exact .none
    | some c => exact .some rfl

end Command

/-! ## Scripts under two settings -/

/-- A duration that is no shorter than one by default is so in an environment just when its
variable, if it holds a numeral, holds no smaller one. -/
theorem Settings.one_le_ofEnvironment_iff (platform : Platform) (env : Environment) {f : Field}
    {d m : Int} (hdefault : (default platform).get f = .whole d) (hd : 1 ≤ d)
    (hm : (ofEnvironment platform env).get f = .whole m) :
    1 ≤ m ↔ ∀ raw n, env f.variableName = some raw → Numeral.readLoose? raw.toList = some n →
      1 ≤ n := by
  rw [get_ofEnvironment] at hm
  constructor
  · intro hpos raw n hraw hread
    have hvalue := (fromEnvironment?_eq_some_whole_iff hdefault).mpr ⟨raw, hraw, hread⟩
    rw [hvalue, Option.getD_some] at hm
    obtain rfl := Value.whole.inj hm
    exact hpos
  · intro hvariable
    cases hvalue : f.fromEnvironment? env with
    | none =>
      rw [hvalue, Option.getD_none, hdefault] at hm
      obtain rfl := Value.whole.inj hm
      exact hd
    | some v =>
      rw [hvalue, Option.getD_some] at hm
      rw [hm] at hvalue
      obtain ⟨raw, hraw, hread⟩ := (fromEnvironment?_eq_some_whole_iff hdefault).mp hvalue
      exact hvariable raw m hraw hread

theorem Settings.takesTime_ofEnvironment_iff (platform : Platform) (env : Environment) :
    (ofEnvironment platform env).TakesTime ↔ ∀ f ∈ gestureDurations, ∀ raw n,
      env f.variableName = some raw → Numeral.readLoose? raw.toList = some n → 1 ≤ n := by
  have htap := one_le_ofEnvironment_iff platform env (f := .tapDuration) rfl
    (takesTime_default platform).tap rfl
  have hswipe := one_le_ofEnvironment_iff platform env (f := .swipeDuration) rfl
    (takesTime_default platform).swipe rfl
  have hscroll := one_le_ofEnvironment_iff platform env (f := .scrollDuration) rfl
    (takesTime_default platform).scroll rfl
  rw [gestureDurations, List.forall_mem_cons, List.forall_mem_cons, List.forall_mem_singleton,
    ← htap, ← hswipe, ← hscroll]
  exact ⟨fun h => ⟨h.tap, h.swipe, h.scroll⟩, fun h => ⟨h.1, h.2.1, h.2.2⟩⟩

namespace Script

theorem forall₂_commands {settings : Settings} (h : settings.TakesTime) (script : String) :
    List.Forall₂ Command.SameButDuration (commands settings script) (commands .default script) := by
  rw [commands, commands]
  refine List.rel_filterMap ?_ (List.forall₂_same.mpr fun _ _ => rfl)
  rintro line _ rfl
  rw [commandOf?_eq_ofLine?, commandOf?_eq_ofLine?]
  exact Command.rel_ofLine? h line

/-- A gesture without a duration shows whether its settings give it time. -/
theorem wellFormed_of_forall₂_commands {settings : Settings} {script : String} {c : Command}
    (hline : IsLine script.toList) (homits : Command.OmitsDuration script.toList)
    (hc : Command.ofLine? .default script.toList = some c)
    (h : List.Forall₂ Command.SameButDuration (commands settings script)
      (commands .default script)) : (c.lastingAsIn settings).WellFormed := by
  have hcommands (s : Settings) :
      commands s script = (Command.ofLine? s script.toList).toList := by
    rw [← commandOf?_eq_ofLine?]
    exact commandsIn_isLine s hline
  by_contra hformed
  have hlost : Command.ofLine? settings script.toList = none := by
    rw [Command.ofLine?_of_omitsDuration (Settings.takesTime_default _) homits, hc,
      Option.bind_some, Command.guarded, if_neg hformed]
  rw [hcommands, hcommands, hlost, hc] at h
  cases h

/-- Whatever the environment, a line that tells the duration of its gesture, or is that of no
gesture, gives the command that it gives by default; any other gives this command with the
duration of the settings, if there is any. So a script has the commands that it has by default,
in number, order and all but some durations, unless the environment sets one of the durations
of gestures to a number below one: in such an environment there are lines that are lost. -/
theorem understood_iff_gestures_take_time (platform : Platform) (env : Environment) :
    let settings := Settings.ofEnvironment platform env
    (∀ line,
      (¬Command.OmitsDuration line →
        Command.ofLine? settings line = Command.ofLine? .default line) ∧
      (Command.OmitsDuration line → Command.ofLine? settings line =
        (Command.ofLine? .default line).bind fun c => (c.lastingAsIn settings).guarded)) ∧
    ((∀ script, List.Forall₂ Command.SameButDuration (commands settings script)
        (commands .default script)) ↔
      ∀ f ∈ Settings.gestureDurations, ∀ raw n, env f.variableName = some raw →
        Numeral.readLoose? raw.toList = some n → 1 ≤ n) := by
  intro settings
  refine ⟨fun line => ⟨Command.ofLine?_of_not_omitsDuration,
    Command.ofLine?_of_omitsDuration (Settings.takesTime_default _)⟩, ?_⟩
  rw [← Settings.takesTime_ofEnvironment_iff platform]
  constructor
  · intro h
    have hscript (script : String) {c : Command} (word : List Char)
        (arguments : List (List Char)) (keyword : Keyword) (hline : IsLine script.toList)
        (hwords : words script.toList = word :: arguments)
        (hword : lower word = keyword.name.toList) (homits : keyword.OmitsDuration arguments)
        (hc : Command.ofLine? .default script.toList = some c) :
        (c.lastingAsIn settings).WellFormed :=
      wellFormed_of_forall₂_commands hline
        ⟨word, arguments, keyword, (words_eq_iff _ _).mp hwords, hword, homits⟩ hc (h script)
    have hnone : NoDuration [] := by simp [NoDuration]
    have htap := hscript "tap 0 0" (c := .tap [⟨0, 0⟩] 100) "tap".toList
      ["0".toList, "0".toList] .tap (by decide) (by decide) (by decide) hnone (by decide +kernel)
    have hswipe := hscript "swipe 0 0 0 0" (c := .swipe ⟨0, 0⟩ ⟨0, 0⟩ 300)
      "swipe".toList ["0".toList, "0".toList, "0".toList, "0".toList] .swipe (by decide)
      (by decide) (by decide) hnone (by decide +kernel)
    have hscroll := hscript "scroll up" (c := .scroll .up 500) "scroll".toList
      ["up".toList] .scroll (by decide) (by decide) (by decide) hnone (by decide +kernel)
    exact ⟨htap.2, hswipe, hscroll⟩
  · exact forall₂_commands

/-- A duration that is no numeral is passed over, and a longer one is taken. -/
theorem slow_swipes_understood :
    let env : Environment := fun name =>
      if name = "SCREENPILOT_TAP_DURATION_MS" then some "fast"
      else if name = "SCREENPILOT_SWIPE_DURATION_MS" then some " 9_00 "
      else none
    let script := "tap 1 2\nswipe 1 2 3 4 5\nswipe 1 2 3 4"
    (∀ f ∈ Settings.gestureDurations, ∀ raw n, env f.variableName = some raw →
      Numeral.readLoose? raw.toList = some n → 1 ≤ n) ∧
    List.Forall₂ Command.SameButDuration (commands (.ofEnvironment .controlKey env) script)
      (commands .default script) ∧
    commands (.ofEnvironment .controlKey env) script =
      [.tap [⟨1, 2⟩] 100, .swipe ⟨1, 2⟩ ⟨3, 4⟩ 5, .swipe ⟨1, 2⟩ ⟨3, 4⟩ 900] := by
  intro env script
  have hvariables := (Settings.takesTime_ofEnvironment_iff .controlKey env).mp
    ⟨by decide +kernel, by decide +kernel, by decide +kernel⟩
  exact ⟨hvariables, (understood_iff_gestures_take_time .controlKey env).2.mpr hvariables script,
    by decide +kernel⟩

/-- Where taps are to last no time, a tap without a duration is no command. -/
theorem tap_lost_to_environment :
    let env : Environment := fun name =>
      if name = "SCREENPILOT_TAP_DURATION_MS" then some "0" else none
    commands (.ofEnvironment .controlKey env) "tap 1 2\nback" = [.press .back] ∧
      commands .default "tap 1 2\nback" = [.tap [⟨1, 2⟩] 100, .press .back] ∧
      ¬∀ (platform : Platform) (env : Environment) (script : String),
        List.Forall₂ Command.SameButDuration (commands (.ofEnvironment platform env) script)
          (commands .default script) := by
  intro env
  have hlost : commands (.ofEnvironment .controlKey env) "tap 1 2\nback" = [.press .back] := by
    decide +kernel
  have hdefault : commands .default "tap 1 2\nback" = [.tap [⟨1, 2⟩] 100, .press .back] := by
    decide +kernel
  refine ⟨hlost, hdefault, ?_⟩
  intro h
  have hlength := (h .controlKey env "tap 1 2\nback").length_eq
  rw [hlost, hdefault] at hlength
  cases hlength

end Script

end GestureScript
