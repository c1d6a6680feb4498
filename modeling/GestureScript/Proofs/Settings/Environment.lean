import GestureScript.Proofs.Numeral
import GestureScript.Settings.Environment

/-!
# What the environment makes of the settings

Each field is decided by its own variable and by nothing else: it has the value that is read
from the variable, or the default where nothing can be read.
-/

set_option autoImplicit false

namespace GestureScript.Settings

/-- A value that was read for a field is of the kind that the field holds. -/
theorem get_set_of_ofText? {f : Field} {v : Value} {cs : List Char}
    (h : Value.ofText? (default.get f) cs = some v) (s : Settings) : (s.set f v).get f = v := by
  cases f with
  | tapDuration | swipeDuration | scrollDuration | historySize | scrollAmount =>
    obtain ⟨n, -, rfl⟩ := Option.map_eq_some_iff.mp h
    rfl
  | commandDelay | resultTimeout | typingInterval =>
    obtain ⟨x, -, rfl⟩ := Option.map_eq_some_iff.mp h
    rfl
  | hotkey button =>
    obtain rfl := Option.some.inj h
    cases button <;> rfl

/-- A value comes from a variable that is set to it. -/
theorem fromEnvironment?_eq_some_iff {f : Field} {env : Environment} {v : Value} :
    f.fromEnvironment? env = some v ↔ ∃ raw, env f.variableName = some raw ∧
      raw ≠ "" ∧ Value.ofText? (default.get f) raw.toList = some v := by
  unfold Field.fromEnvironment?
  cases env f.variableName with
  | none => simp
  | some raw => by_cases hraw : raw = "" <;> simp [hraw]

theorem get_override (env : Environment) (s : Settings) (f g : Field) :
    (override env s f).get g =
      if g = f then (g.fromEnvironment? env).getD (s.get g) else s.get g := by
  unfold override
  by_cases hfield : g = f
  · subst hfield
    rw [if_pos rfl]
    cases hvalue : g.fromEnvironment? env with
    | none => rfl
    | some v =>
      obtain ⟨raw, -, -, htext⟩ := fromEnvironment?_eq_some_iff.mp hvalue
      exact get_set_of_ofText? htext s
  · rw [if_neg hfield]
    cases f.fromEnvironment? env with
    | none => rfl
    | some v => exact get_set_ne hfield s v

theorem get_foldl_override (env : Environment) (fs : List Field) (s : Settings) (g : Field) :
    (fs.foldl (override env) s).get g =
      if g ∈ fs then (g.fromEnvironment? env).getD (s.get g) else s.get g := by
  induction fs generalizing s with
  | nil => rfl
  | cons f fs ih =>
    rw [List.foldl_cons, ih, get_override]
    by_cases hfield : g = f
    · -- a field that comes again is given the same value again
      cases g.fromEnvironment? env <;> simp [hfield]
    · simp [hfield]

/-- Platforms have the same defaults but for their hotkeys. -/
theorem get_default_eq_whole {platform : Platform} {f : Field} {d : Int}
    (h : (default platform).get f = .whole d) (platform' : Platform) :
    (default platform').get f = .whole d := by
  cases f with
  | hotkey button => cases h
  | _ => exact h

/-- A whole number comes from a variable that holds a numeral, in any of its spellings. -/
theorem fromEnvironment?_eq_some_whole_iff {platform : Platform} {f : Field} {d : Int}
    (hf : (default platform).get f = .whole d) {env : Environment} {n : Int} :
    f.fromEnvironment? env = some (.whole n) ↔
      ∃ raw, env f.variableName = some raw ∧ Numeral.readLoose? raw.toList = some n := by
  rw [fromEnvironment?_eq_some_iff, get_default_eq_whole hf]
  have htext (raw : String) : Value.ofText? (.whole d) raw.toList = some (.whole n) ↔
      Numeral.readLoose? raw.toList = some n := by
    cases hread : Numeral.readLoose? raw.toList <;> simp [Value.ofText?, hread]
  simp only [htext]
  refine exists_congr fun raw => and_congr_right fun _ => and_iff_right_of_imp ?_
  rintro hread rfl
  cases hread

/-- A field has the value of its variable, or else the default. -/
theorem get_ofEnvironment (platform : Platform) (env : Environment) (f : Field) :
    (ofEnvironment platform env).get f =
      (f.fromEnvironment? env).getD ((default platform).get f) := by
  rw [ofEnvironment, get_foldl_override, if_pos f.mem_all]

theorem isShort_of_get_default {platform : Platform} {f : Field} {d : Int}
    (h : (default platform).get f = .whole d) : Numeral.IsShort d := by
  cases f with
  | tapDuration | swipeDuration | scrollDuration | historySize | scrollAmount =>
    cases h
    cases platform <;> decide
  | commandDelay | resultTimeout | typingInterval | hotkey => cases h

/-- A whole number from the environment has no more digits than are read. -/
theorem isShort_of_get_ofEnvironment {platform : Platform} {env : Environment} {f : Field}
    {n : Int} (h : (ofEnvironment platform env).get f = .whole n) : Numeral.IsShort n := by
  rw [get_ofEnvironment] at h
  cases hvalue : f.fromEnvironment? env with
  | none =>
    rw [hvalue] at h
    exact isShort_of_get_default h
  | some v =>
    rw [hvalue, Option.getD_some] at h
    subst h
    obtain ⟨raw, -, -, htext⟩ := fromEnvironment?_eq_some_iff.mp hvalue
    cases hdefault : (default : Settings).get f with
    | whole d =>
      rw [hdefault] at htext
      obtain ⟨m, hread, hm⟩ := Option.map_eq_some_iff.mp htext
      cases hm
      exact Numeral.isShort_of_readLoose? hread
    | seconds | keys =>
      rw [hdefault] at htext
      simp [Value.ofText?] at htext

end GestureScript.Settings
