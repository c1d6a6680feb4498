import GestureScript.Proofs.Desktop.Navigation
import GestureScript.Proofs.Numeral
import Mathlib.Data.List.Forall2

/-!
# Settings that are written to the environment

Numbers and hotkeys can be chosen for some of the fields, and written to their variables. What is
made of the environment has these values, and the defaults in all other fields, if no other
variable of a field holds anything that can be read. No two fields share a variable.
-/

set_option autoImplicit false

namespace GestureScript

namespace Text

/-- Spaces and tabs. -/
def IsPadding (cs : List Char) : Prop := ∀ c ∈ cs, c = ' ' ∨ c = '\t'

instance : DecidablePred IsPadding := fun cs =>
  decidable_of_iff (cs.all (fun c => c == ' ' || c == '\t') = true) (by simp [IsPadding])

/-- The text is the core with padding around it. -/
def Padded (core text : List Char) : Prop :=
  ∃ before after, IsPadding before ∧ IsPadding after ∧ text = before ++ core ++ after

theorem IsPadding.isGap {cs : List Char} (h : IsPadding cs) : IsGap cs := by
  intro c hc
  rcases h c hc with rfl | rfl <;> decide

theorem IsPadding.isMargin {cs : List Char} (h : IsPadding cs) :
    ∀ c ∈ cs, Numeral.isMargin c = true := by
  intro c hc
  rcases h c hc with rfl | rfl <;> decide

theorem IsPadding.plus_not_mem {cs : List Char} (h : IsPadding cs) : '+' ∉ cs := by
  intro hc
  rcases h '+' hc with heq | heq <;> exact absurd heq (by decide)

section

variable {core text : List Char}

theorem Padded.trim_eq (h : Padded core text) (hcore : IsTrimmed core) : trim text = core := by
  obtain ⟨before, after, hbefore, hafter, rfl⟩ := h
  exact trim_eq_of_isTrimmed hbefore.isGap hcore hafter.isGap

theorem Padded.plus_not_mem (h : Padded core text) (hcore : '+' ∉ core) : '+' ∉ text := by
  obtain ⟨before, after, hbefore, hafter, rfl⟩ := h
  simp [hbefore.plus_not_mem, hcore, hafter.plus_not_mem]

end

end Text

namespace Numeral

theorem readLoose?_of_padded {n : Int} (hn : IsShort n) {text : List Char}
    (h : Text.Padded (written n) text) : readLoose? text = some n := by
  obtain ⟨before, after, hbefore, hafter, rfl⟩ := h
  exact readLoose?_of_denotes (denotes_written hn) hbefore.isMargin hafter.isMargin

end Numeral

/-- The environment in which the variables of the fields have other values. -/
def Environment.assign (env : Environment) (texts : Settings.Field → Option String) :
    Environment := fun name =>
  match Settings.Field.all.find? (fun f => f.variableName == name) with
  | some f => texts f
  | none => env name

namespace Settings

open Text

/-! ## Variables of fields -/

/-- No two fields share a variable. -/
theorem find?_variableName (f : Field) :
    Field.all.find? (fun g => g.variableName == f.variableName) = some f := by
  have hall : ∀ f ∈ Field.all,
      Field.all.find? (fun g => g.variableName == f.variableName) = some f := by decide +kernel
  exact hall f f.mem_all

example : Field.all.map Field.variableName =
    ["SCREENPILOT_TAP_DURATION_MS", "SCREENPILOT_SWIPE_DURATION_MS",
      "SCREENPILOT_SCROLL_DURATION_MS", "SCREENPILOT_HISTORY_SIZE",
      "SCREENPILOT_INTER_COMMAND_DELAY", "SCREENPILOT_RESULT_TIMEOUT",
      "SCREENPILOT_SCROLL_AMOUNT", "SCREENPILOT_TYPING_INTERVAL", "SCREENPILOT_BACK_HOTKEY",
      "SCREENPILOT_HOME_HOTKEY", "SCREENPILOT_RECENTS_HOTKEY"] := by decide +kernel

theorem assign_variableName (env : Environment) (texts : Field → Option String) (f : Field) :
    env.assign texts f.variableName = texts f := by
  rw [Environment.assign, find?_variableName]

/-! ## Choices -/

/-- The text is a value for the field as it is written: a number in decimal, or the keys of a
shortcut with pluses in between, with padding around the number or around each key. -/
inductive Field.Writes : Field → Value → String → Prop
  | number {f : Field} {d n : Int} {text : String} : default.get f = .whole d →
      Numeral.IsShort n → Padded (Numeral.written n) text.toList → Writes f (.whole n) text
  | shortcut {button : Button} {keys : List String} {pieces : List (List Char)} {text : String} :
      IsShortcut keys → List.Forall₂ (fun key piece => Padded key.toList piece) keys pieces →
      text.toList = ['+'].intercalate pieces → Writes (.hotkey button) (.keys keys) text

/-- What the variable of a field may hold if the value is chosen for the field, or if none is. -/
inductive Field.Follows : Field → Option Value → Option String → Prop
  | chosen {f : Field} {v : Value} {text : String} : f.Writes v text →
      Follows f (some v) (some text)
  | unset {f : Field} : Follows f none none
  | empty {f : Field} : Follows f none (some "")
  | notWhole {f : Field} {d : Int} {text : String} : default.get f = .whole d →
      Numeral.readLoose? text.toList = none → Follows f none (some text)
  | notSeconds {f : Field} {x : Binary64} {text : String} : default.get f = .seconds x →
      Binary64.readLoose? text.toList = none → Follows f none (some text)

/-- Pieces that are keys with padding around them are read as these keys. -/
theorem keysOfText_of_padded {keys : List String} {pieces : List (List Char)}
    (hkeys : IsShortcut keys)
    (h : List.Forall₂ (fun key piece => Padded key.toList piece) keys pieces) :
    keysOfText (['+'].intercalate pieces) = keys := by
  obtain ⟨hplus, htrim⟩ : (∀ piece ∈ pieces, '+' ∉ piece) ∧
      pieces.map trim = keys.map String.toList := by
    -- along the keys and their pieces together; that there is a key is not needed here
    replace hkeys := hkeys.2
    induction h with
    | nil => simp
    | cons hpiece _ ih =>
      obtain ⟨⟨htrimmed, hfree⟩, hkeys⟩ := List.forall_mem_cons.mp hkeys
      obtain ⟨hplus, htrim⟩ := ih hkeys
      refine ⟨List.forall_mem_cons.mpr ⟨hpiece.plus_not_mem hfree, hplus⟩, ?_⟩
      rw [List.map_cons, List.map_cons, htrim, hpiece.trim_eq htrimmed]
  exact keysOfText_intercalate hkeys hplus htrim

variable {platform : Platform} {f : Field} {v : Value} {text : String}

theorem Field.Writes.ofText?_eq (h : f.Writes v text) :
    Value.ofText? (default.get f) text.toList = some v := by
  cases h with
  | number hfield hshort hpadded =>
    rw [hfield, Value.ofText?, Numeral.readLoose?_of_padded hshort hpadded, Option.map_some]
  | @shortcut button keys pieces _ hkeys hpieces htext =>
    have hget : default.get (.hotkey button) = .keys (default.hotkey button) := rfl
    rw [hget, Value.ofText?, htext, keysOfText_of_padded hkeys hpieces]

theorem Field.Writes.ne_empty (h : f.Writes v text) : text ≠ "" := by
  -- an empty text is no number, and there is no key in it
  rintro rfl
  have hvalue := h.ofText?_eq
  cases h with
  | number hfield =>
    rw [hfield] at hvalue
    cases hvalue
  | shortcut hkeys =>
    obtain rfl := Value.keys.inj (Option.some.inj hvalue)
    exact hkeys.1 rfl

theorem fromEnvironment?_of_follows {env : Environment} {choice : Option Value}
    (h : f.Follows choice (env f.variableName)) : f.fromEnvironment? env = choice := by
  generalize htext : env f.variableName = held at h
  cases h with
  | chosen hwrites =>
    exact fromEnvironment?_eq_some_iff.mpr ⟨_, htext, hwrites.ne_empty, hwrites.ofText?_eq⟩
  | unset => rw [Field.fromEnvironment?, htext]
  | empty =>
    rw [Field.fromEnvironment?, htext]
    rfl
  | notWhole hfield hnone | notSeconds hfield hnone =>
    simp only [Field.fromEnvironment?, htext, hfield, Value.ofText?, hnone, Option.map_none,
      ite_self]

/-- The keys for a button are a shortcut, chosen or not. -/
theorem Field.Follows.isShortcut {button : Button} {choice : Option Value} {held : Option String}
    (h : (Field.hotkey button).Follows choice held) :
    ∃ keys, choice.getD ((default platform).get (.hotkey button)) = .keys keys ∧
      IsShortcut keys := by
  cases h with
  | chosen hwrites =>
    cases hwrites with
    | number hfield => cases hfield
    | shortcut hkeys => exact ⟨_, rfl, hkeys⟩
  | unset | empty | notWhole | notSeconds => exact ⟨_, rfl, isShortcut_default platform button⟩

/-- Numbers and shortcuts that are chosen for any fields and written to their variables are what
the settings have there; all other fields, of which the variables hold nothing that can be read,
have their defaults. So every button has a shortcut. And any shortcut that was pressed for a
button is reported in a text from which the same keys are loaded, for whichever button. -/
theorem chosen_settings_reloaded {choice : Field → Option Value} {texts : Field → Option String}
    (h : ∀ f : Field, f.Follows (choice f) (texts f)) (platform : Platform) (env : Environment) :
    let settings := ofEnvironment platform (env.assign texts)
    (∀ f, settings.get f = (choice f).getD ((default platform).get f)) ∧
    (∀ button, IsShortcut (settings.hotkey button)) ∧
    ∀ (w : Workplace) (d : Desktop) (button : Button), d.At w →
      IsShortcut (w.settings.hotkey button) →
      let performance := Desktop.worker.perform (.command (.press button)) d
      (w.device.fault d.log.calls (.hotkey (w.settings.hotkey button)) = none →
        performance.1.ending.outcome.isSuccess = true) ∧
      ∀ success, performance.1.ending.outcome = .success success →
        ∃ keys text, performance.1.calls = [.hotkey keys] ∧
          success.metadata = some [("hotkey", .text text)] ∧
          ∀ (platform : Platform) (env : Environment) (other : Button),
            env (Field.hotkey other).variableName = some text →
            (ofEnvironment platform env).hotkey other = keys := by
  intro settings
  have hget : ∀ f, settings.get f = (choice f).getD ((default platform).get f) := by
    intro f
    have hfollows : f.Follows (choice f) (env.assign texts f.variableName) := by
      rw [assign_variableName]
      exact h f
    rw [get_ofEnvironment, fromEnvironment?_of_follows hfollows]
  refine ⟨hget, ?_, ?_⟩
  · intro button
    obtain ⟨keys, hkeys, hshortcut⟩ := (h (.hotkey button)).isShortcut
    have hhotkey : settings.hotkey button = keys :=
      Value.keys.inj ((hget (.hotkey button)).trans hkeys)
    rwa [hhotkey]
  · intro w d button hw hshortcut performance
    have hperformance : performance = _ := Desktop.perform_press hw button
    rw [hperformance]
    refine ⟨Desktop.isSuccess_pressed button, ?_⟩
    intro success hsuccess
    exact ⟨w.settings.hotkey button, _, rfl, Desktop.metadata_pressed hsuccess,
      fun platform env other htext => hotkey_of_keysText hshortcut htext⟩

/-- A number and a shortcut are chosen, with a key that has a blank inside. Of the other
variables two hold what is no number, one is empty and one belongs to no field. -/
theorem two_choices_reloaded :
    let choice : Field → Option Value := fun f =>
      match f with
      | .tapDuration => some (.whole (-70))
      | .hotkey .back => some (.keys ["ctrl", "page up"])
      | _ => none
    let texts : Field → Option String := fun f =>
      match f with
      | .tapDuration => some " -70\t"
      | .swipeDuration => some "1e3"
      | .commandDelay => some "soon"
      | .historySize => some ""
      | .hotkey .back => some "ctrl +\t page up"
      | _ => none
    let env : Environment := fun name => if name = "LANG" then some "C" else none
    let settings := ofEnvironment .commandKey (env.assign texts)
    let w : Workplace := ⟨.simulated [.ok [1920, 1080]] [] true, settings, .commandKey⟩
    let performance := Desktop.worker.perform (.command (.press .back)) ⟨some w, {}⟩
    (∀ f : Field, f.Follows (choice f) (texts f)) ∧
      (∀ f, settings.get f = (choice f).getD ((default .commandKey).get f)) ∧
      settings = { default .commandKey with
        tapDuration := -70, backHotkey := ["ctrl", "page up"] } ∧
      Desktop.At w ⟨some w, {}⟩ ∧ IsShortcut (w.settings.hotkey .back) ∧
      ∃ success text, performance.1.ending.outcome = .success success ∧
        success.metadata = some [("hotkey", .text text)] ∧
        ∀ (platform : Platform) (env : Environment) (other : Button),
          env (Field.hotkey other).variableName = some text →
          (ofEnvironment platform env).hotkey other = ["ctrl", "page up"] := by
  intro choice texts env settings w performance
  have hfollows : ∀ f : Field, f.Follows (choice f) (texts f) := by
    intro f
    cases f with
    | tapDuration =>
      have hpadded : Padded (Numeral.written (-70)) " -70\t".toList :=
        ⟨[' '], ['\t'], by decide, by decide, by decide +kernel⟩
      exact .chosen (.number rfl (by decide +kernel) hpadded)
    | swipeDuration => exact .notWhole rfl (by decide +kernel)
    | commandDelay => exact .notSeconds rfl (by decide +kernel)
    | historySize => exact .empty
    | scrollDuration | resultTimeout | scrollAmount | typingInterval => exact .unset
    | hotkey button =>
      cases button with
      | home | recents => exact .unset
      | back =>
        have hctrl : Padded "ctrl".toList "ctrl ".toList :=
          ⟨[], [' '], by decide, by decide, by decide +kernel⟩
        have hpage : Padded "page up".toList "\t page up".toList :=
          ⟨['\t', ' '], [], by decide, by decide, by decide +kernel⟩
        exact .chosen (.shortcut (by decide +kernel) (.cons hctrl (.cons hpage .nil))
          (by decide +kernel))
  obtain ⟨hget, hshortcuts, hpress⟩ := chosen_settings_reloaded hfollows .commandKey env
  obtain ⟨success, hsuccess⟩ : ∃ success, performance.1.ending.outcome = .success success :=
    ⟨_, rfl⟩
  obtain ⟨keys, text, hcalls, hmetadata, hreload⟩ :=
    (hpress w ⟨some w, {}⟩ .back rfl (hshortcuts .back)).2 success hsuccess
  have hmade : performance.1.calls = [.hotkey ["ctrl", "page up"]] := by decide +kernel
  obtain rfl : keys = ["ctrl", "page up"] := by simpa using hcalls.symm.trans hmade
  exact ⟨hfollows, hget, by decide +kernel, rfl, hshortcuts .back, success, text, hsuccess,
    hmetadata, hreload⟩

end Settings

end GestureScript
