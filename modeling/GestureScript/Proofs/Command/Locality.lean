import GestureScript.Proofs.Command.Script

/-!
# Scripts and their lines

Which command a line gives does not depend on the lines around it, nor on the blanks at its
ends. A line that is passed over in a script would not be read as a command, either. So the
commands of a script are those of its lines, and a script that is cut at a line break has the
commands of the one part, and then those of the other.
-/

set_option autoImplicit false

namespace GestureScript

open Text

/-! ## One line -/

/-- A text that does not start with a blank starts with the first character of a word. -/
theorem Text.exists_words_cons {c : Char} (hc : isBlank c = false) (cs : List Char) :
    ∃ word ws, words (c :: cs) = (c :: word) :: ws := by
  rw [words, if_neg (by simp [hc])]
  split
  · cases words cs with
    | nil => exact ⟨[], [], rfl⟩
    | cons word ws => exact ⟨word, ws, rfl⟩
  · exact ⟨[], words cs, rfl⟩

namespace Command

/-- Nothing but the words of a line and its trimmed text is looked at. -/
theorem ofLine?_trim (settings : Settings) (line : List Char) :
    ofLine? settings (trim line) = ofLine? settings line := by
  rw [ofLine?, ofLine?, words_trim, trim_trim]

/-- No keyword starts with the mark of a comment. -/
theorem ofWord?_comment (word : List Char) : Keyword.ofWord? ('#' :: word) = none := by
  cases hkeyword : Keyword.ofWord? ('#' :: word) with
  | none => rfl
  | some keyword =>
    have hlower : ∃ more, lower ('#' :: word) = '#' :: more := ⟨lowerAfter ['#'] word, rfl⟩
    obtain ⟨more, hmore⟩ := hlower
    rw [ofWord?_eq_some_iff, hmore] at hkeyword
    have hhead : keyword.name.toList.head? ≠ some '#' := by
      cases keyword with
      | press button => cases button <;> decide
      | tap | swipe | scroll | input | wait => decide
    exact absurd (by rw [← hkeyword]; rfl) hhead

theorem ofLine?_of_isSkipped (settings : Settings) {line : List Char}
    (h : Script.isSkipped line = true) : ofLine? settings line = none := by
  cases line with
  | nil => rfl
  | cons c line =>
    obtain rfl : c = '#' := eq_of_beq h
    obtain ⟨word, ws, hwords⟩ := exists_words_cons (c := '#') (by decide) line
    rw [ofLine?, hwords]
    simp only [ofWord?_comment]

end Command

namespace Script

/-- A line gives the same command by itself as in a script. -/
theorem commandOf?_eq_ofLine? (settings : Settings) (line : List Char) :
    commandOf? settings line = Command.ofLine? settings line := by
  rw [commandOf?, ← Command.ofLine?_trim settings line]
  split
  next hskipped => exact (Command.ofLine?_of_isSkipped settings hskipped).symm
  next => rfl

/-! ## Two parts of a script -/

theorem commandsIn_isLine (settings : Settings) {line : List Char} (h : IsLine line) :
    commandsIn settings line = (commandOf? settings line).toList := by
  by_cases hne : line = []
  · subst hne
    rfl
  · rw [commandsIn, lines_of_isLine h hne]
    cases hcommand : commandOf? settings line <;> simp [hcommand]

/-- A script is cut in two at any character that breaks a line. By induction on the lines of
the first part. -/
theorem commandsIn_cut (settings : Settings) {c : Char} (hc : isBreak c = true)
    (cs ds : List Char) :
    commandsIn settings (cs ++ c :: ds) = commandsIn settings cs ++ commandsIn settings ds := by
  induction hlength : cs.length using Nat.strongRecOn generalizing cs with
  | ind n ih =>
    by_cases hline : IsLine cs
    · rw [commandsIn_append settings hline hc, commandsIn_isLine settings hline]
    · obtain ⟨line, d, rest, rfl, hfirst, hd⟩ := exists_break hline
      simp only [List.length_append, List.length_cons] at hlength
      rw [List.append_assoc, List.cons_append, commandsIn_append settings hfirst hd,
        commandsIn_append settings hfirst hd, ih _ (by omega) rest rfl, List.append_assoc]

/-- The commands of a script are those of its lines as they are. At a line break a script is
cut into two scripts, even if the first ends or the second begins with one half of a break. -/
theorem commands_line_by_line (settings : Settings) :
    (∀ script : String,
      (∀ ls, Cut script.toList ls ↔ lines script.toList = ls) ∧
        commands settings script =
          (lines script.toList).filterMap (Command.ofLine? settings)) ∧
    ∀ first second br : String, br.toList ∈ lineBreaks →
      commands settings (first ++ br ++ second) =
        commands settings first ++ commands settings second := by
  constructor
  · intro script
    refine ⟨fun ls => (lines_eq_iff _ ls).symm, ?_⟩
    rw [commands, funext (commandOf?_eq_ofLine? settings)]
  · intro first second br hbr
    show commandsIn settings (first ++ br ++ second).toList = _
    rw [String.toList_append, String.toList_append, List.append_assoc]
    rcases cases_of_mem_lineBreaks hbr with ⟨c, hbreak, hc⟩ | hpair
    · rw [hbreak]
      exact commandsIn_cut settings hc _ _
    · -- the line feed of a pair breaks one more line, which is empty
      rw [hpair]
      exact (commandsIn_cut settings (by decide) _ _).trans
        (congrArg _ (commandsIn_break settings (by decide) _))

/-- Both halves of a long break, the one at the end of a script and the other as the break. -/
theorem halves_of_break_cut :
    let first := "# tap 1 2\n input  a b \r"
    let second := "\nswipe 1\u2028 BACK"
    ("\n".toList ∈ lineBreaks ∧ "\r".toList ∈ lineBreaks) ∧
      commands .default (first ++ "\n" ++ second) =
        [.typeText "a b" false false, .press .back] ∧
      commands .default (first ++ "\r" ++ second) =
        [.typeText "a b" false false, .press .back] := by
  intro first second
  have hfirst : commands .default first = [.typeText "a b" false false] := by decide +kernel
  have hsecond : commands .default second = [.press .back] := by decide +kernel
  have hcut := (commands_line_by_line .default).2 first second
  refine ⟨by decide, ?_, ?_⟩
  · rw [hcut "\n" (by decide), hfirst, hsecond]
    rfl
  · rw [hcut "\r" (by decide), hfirst, hsecond]
    rfl

end Script

end GestureScript
