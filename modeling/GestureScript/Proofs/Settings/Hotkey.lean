import GestureScript.Desktop.Gesture
import GestureScript.Proofs.Settings.Environment
import GestureScript.Proofs.Text.Lines

/-!
# Hotkeys in the environment

The keys of a hotkey are written as one text with pluses in between. Whatever is read, no key
is empty, holds a plus or has a blank at its ends; but there may be no key at all, where a text
has only pluses and blanks. Keys that are fit to be written are read back as they were.
-/

set_option autoImplicit false

namespace GestureScript

namespace Settings

open Text

/-- A key that can stand between pluses. -/
def IsKey (key : String) : Prop := IsTrimmed key.toList ∧ '+' ∉ key.toList

instance : DecidablePred IsKey := fun _ => inferInstanceAs (Decidable (_ ∧ _))

theorem IsKey.ne_empty {key : String} (h : IsKey key) : key ≠ "" := by
  rintro rfl
  exact absurd h (by decide)

/-- Keys that are pressed together, at least one. -/
def IsShortcut (keys : List String) : Prop := keys ≠ [] ∧ ∀ key ∈ keys, IsKey key

instance : DecidablePred IsShortcut := fun _ => inferInstanceAs (Decidable (_ ∧ _))

/-! ## Keys of a text -/

theorem isKey_of_mem_keysOfText {cs : List Char} {key : String} (h : key ∈ keysOfText cs) :
    IsKey key := by
  obtain ⟨chars, hchars, rfl⟩ := List.mem_map.mp h
  obtain ⟨hmem, hne⟩ := List.mem_filter.mp hchars
  obtain ⟨piece, hpiece, rfl⟩ := List.mem_map.mp hmem
  obtain ⟨-, -, -, -, -, hnil | htrimmed⟩ := exists_gaps_trim piece
  · simp [hnil] at hne
  · rw [IsKey, String.toList_ofList]
    exact ⟨htrimmed, fun hplus => not_mem_of_mem_splitOn hpiece (mem_of_mem_trim hplus)⟩

/-- Only pluses and blanks make no key. -/
theorem keysOfText_eq_nil_iff (cs : List Char) :
    keysOfText cs = [] ↔ ∀ c ∈ cs, c = '+' ∨ isBlank c = true := by
  have hpieces : keysOfText cs = [] ↔ ∀ piece ∈ splitOn '+' cs, IsGap piece := by
    simp [keysOfText, trim_eq_nil_iff]
  rw [hpieces]
  exact forall_mem_splitOn

/-- Pieces that are trimmed to keys, with pluses in between, are read as these keys. -/
theorem keysOfText_intercalate {keys : List String} {pieces : List (List Char)}
    (hkeys : IsShortcut keys) (hplus : ∀ piece ∈ pieces, '+' ∉ piece)
    (htrim : pieces.map trim = keys.map String.toList) :
    keysOfText (['+'].intercalate pieces) = keys := by
  have hne : pieces ≠ [] := by
    rintro rfl
    exact hkeys.1 (List.map_eq_nil_iff.mp htrim.symm)
  have hkept : ∀ chars ∈ keys.map String.toList, (!chars.isEmpty) = true := by
    intro chars hchars
    obtain ⟨key, hkey, rfl⟩ := List.mem_map.mp hchars
    simpa using (hkeys.2 key hkey).ne_empty
  rw [keysOfText, splitOn_intercalate hne hplus, htrim, List.filter_eq_self.mpr hkept,
    List.map_map]
  simp [Function.comp_def]

theorem keysOfText_keysText {keys : List String} (h : IsShortcut keys) :
    keysOfText (Workplace.keysText keys).toList = keys := by
  have htext : (Workplace.keysText keys).toList = ['+'].intercalate (keys.map String.toList) := by
    rw [Workplace.keysText, String.toList_intercalate]
    rfl
  rw [htext]
  apply keysOfText_intercalate h
  · intro piece hpiece
    obtain ⟨key, hkey, rfl⟩ := List.mem_map.mp hpiece
    exact (h.2 key hkey).2
  · rw [List.map_map]
    exact List.map_congr_left fun key hkey => trim_of_isTrimmed (h.2 key hkey).1

/-! ## Hotkeys of an environment -/

variable {platform : Platform} {env : Environment} {button : Button}

theorem isShortcut_default (platform : Platform) (button : Button) :
    IsShortcut ((default platform).hotkey button) := by
  cases platform <;> cases button <;> decide +kernel

/-- The keys are those of the text in the variable. -/
theorem hotkey_of_variable {raw : String} (hraw : env (Field.hotkey button).variableName = some raw)
    (hne : raw ≠ "") : (ofEnvironment platform env).hotkey button = keysOfText raw.toList := by
  have hvalue : (Field.hotkey button).fromEnvironment? env = some (.keys (keysOfText raw.toList)) :=
    fromEnvironment?_eq_some_iff.mpr ⟨raw, hraw, hne, rfl⟩
  have hget := get_ofEnvironment platform env (.hotkey button)
  rw [hvalue, Option.getD_some] at hget
  exact Value.keys.inj hget

theorem hotkey_cases (platform : Platform) (env : Environment) (button : Button) :
    (ofEnvironment platform env).hotkey button = (default platform).hotkey button ∨
      ∃ raw, env (Field.hotkey button).variableName = some raw ∧ raw ≠ "" ∧
        (ofEnvironment platform env).hotkey button = keysOfText raw.toList := by
  cases hvalue : (Field.hotkey button).fromEnvironment? env with
  | none =>
    have hget := get_ofEnvironment platform env (.hotkey button)
    rw [hvalue, Option.getD_none] at hget
    exact .inl (Value.keys.inj hget)
  | some v =>
    obtain ⟨raw, hraw, hne, -⟩ := fromEnvironment?_eq_some_iff.mp hvalue
    exact .inr ⟨raw, hraw, hne, hotkey_of_variable hraw hne⟩

theorem isKey_of_mem_hotkey {key : String}
    (h : key ∈ (ofEnvironment platform env).hotkey button) : IsKey key := by
  rcases hotkey_cases platform env button with hdefault | ⟨raw, -, -, hkeys⟩
  · rw [hdefault] at h
    exact (isShortcut_default platform button).2 key h
  · rw [hkeys] at h
    exact isKey_of_mem_keysOfText h

/-- There is no key just where the variable holds a text without one. -/
theorem hotkey_eq_nil_iff (platform : Platform) (env : Environment) (button : Button) :
    (ofEnvironment platform env).hotkey button = [] ↔
      ∃ raw, env (Field.hotkey button).variableName = some raw ∧ raw ≠ "" ∧
        ∀ c ∈ raw.toList, c = '+' ∨ isBlank c = true := by
  constructor
  · intro hnil
    rcases hotkey_cases platform env button with hdefault | ⟨raw, hraw, hne, hkeys⟩
    · exact absurd (hdefault.symm.trans hnil) (isShortcut_default platform button).1
    · exact ⟨raw, hraw, hne, (keysOfText_eq_nil_iff _).mp (hkeys.symm.trans hnil)⟩
  · rintro ⟨raw, hraw, hne, hchars⟩
    rw [hotkey_of_variable hraw hne]
    exact (keysOfText_eq_nil_iff _).mpr hchars

/-- A shortcut that is written to a variable is read back from it. -/
theorem hotkey_of_keysText {keys : List String} (hkeys : IsShortcut keys)
    (htext : env (Field.hotkey button).variableName = some (Workplace.keysText keys)) :
    (ofEnvironment platform env).hotkey button = keys := by
  have hread := keysOfText_keysText hkeys
  have hne : Workplace.keysText keys ≠ "" := by
    intro hempty
    rw [hempty] at hread
    exact hkeys.1 hread.symm
  rw [hotkey_of_variable htext hne, hread]

end Settings

end GestureScript
