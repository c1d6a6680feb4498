import GestureScript.Command.Script
import GestureScript.Proofs.Command.Grammar
import GestureScript.Proofs.Text.Lines

/-!
# The commands that scripts can say

A textual command is one that a line can say. Its canonical line has the keyword and all
arguments, with a blank in between. Scripts hold textual commands only, and canonical lines
are read back as the commands that they were written for.
-/

set_option autoImplicit false

namespace GestureScript

open Text

namespace Command

/-- What a line can say: taps have one point, and texts fit between the blanks of a line. -/
def Textual : Command → Prop
  | .tap points duration => points.length = 1 ∧ 1 ≤ duration
  | .swipe _ _ duration => 1 ≤ duration
  | .scroll _ duration => 1 ≤ duration
  | .typeText text commit clear =>
    IsTrimmed text.toList ∧ IsLine text.toList ∧ commit = false ∧ clear = false
  | .wait duration => 0 ≤ duration
  | .press _ => True

instance : DecidablePred Textual
  | .tap _ _ => inferInstanceAs (Decidable (_ ∧ _))
  | .swipe _ _ duration => inferInstanceAs (Decidable (1 ≤ duration))
  | .scroll _ duration => inferInstanceAs (Decidable (1 ≤ duration))
  | .typeText _ _ _ => inferInstanceAs (Decidable (_ ∧ _ ∧ _ ∧ _))
  | .wait duration => inferInstanceAs (Decidable (0 ≤ duration))
  | .press _ => .isTrue trivial

/-- All integers of a command, in the order in which a line has them. -/
def integers {τ : Type} : Command τ → List Int
  | .tap points duration => (points.flatMap fun p => [p.x, p.y]) ++ [duration]
  | .swipe start finish duration => [start.x, start.y, finish.x, finish.y, duration]
  | .scroll _ duration => [duration]
  | .typeText .. => []
  | .wait duration => [duration]
  | .press _ => []

/-- Are all integers short enough to be read? -/
def IsShort {τ : Type} (c : Command τ) : Prop := ∀ n ∈ c.integers, Numeral.IsShort n

instance {τ : Type} (c : Command τ) : Decidable c.IsShort :=
  inferInstanceAs (Decidable (∀ n ∈ c.integers, Numeral.IsShort n))

/-- The keyword, and what comes before the integers. -/
def opening : Command → List (List Char)
  | .tap .. => ["tap".toList]
  | .swipe .. => ["swipe".toList]
  | .scroll direction _ => ["scroll".toList, direction.name.toList]
  | .typeText text _ _ => ["input".toList, text.toList]
  | .wait _ => ["wait".toList]
  | .press button => [button.name.toList]

def pieces (c : Command) : List (List Char) := c.opening ++ c.integers.map Numeral.written

/-- The canonical line of a command. -/
def line (c : Command) : List Char := spaceOut c.pieces

/-! ## Pieces of a canonical line -/

theorem isWord_written (n : Int) : IsWord (Numeral.written n) := by
  have hdigits : ∀ k, ∀ c ∈ Nat.toDigits 10 k, isBlank c = false := by
    intro k c hc
    obtain ⟨hlow, hhigh⟩ := (Numeral.isDigits_toDigits k).2 c hc
    have hlow' : 48 ≤ c.toNat := hlow
    have hhigh' : c.toNat ≤ 57 := hhigh
    simp only [isBlank, Bool.or_eq_false_iff, Bool.and_eq_false_iff, decide_eq_false_iff_not,
      beq_eq_false_iff_ne]
    omega
  cases n with
  | ofNat n => exact ⟨Nat.toDigits_ne_nil, hdigits n⟩
  | negSucc n =>
    exact ⟨by simp [Numeral.written], List.forall_mem_cons.mpr ⟨by decide, hdigits _⟩⟩

theorem isWord_of_mem_opening {c : Command}
    (h : ∀ text commit clear, c ≠ .typeText text commit clear) : ∀ w ∈ c.opening, IsWord w := by
  have hname : ∀ d : Direction, IsWord d.name.toList := by
    intro d
    cases d <;> decide
  intro w hw
  cases c with
  | typeText text commit clear => exact absurd rfl (h text commit clear)
  | scroll direction duration =>
    rcases List.mem_cons.mp hw with rfl | hw
    · decide
    · rw [List.mem_singleton.mp hw]
      exact hname direction
  | press button =>
    rw [List.mem_singleton.mp hw]
    cases button <;> decide
  | tap | swipe | wait =>
    rw [List.mem_singleton.mp hw]
    decide

/-- The words of the canonical line, unless a text is typed. -/
theorem isWord_of_mem_pieces {c : Command}
    (h : ∀ text commit clear, c ≠ .typeText text commit clear) : ∀ w ∈ c.pieces, IsWord w := by
  intro w hw
  rcases List.mem_append.mp hw with hw | hw
  · exact isWord_of_mem_opening h w hw
  · obtain ⟨n, _, rfl⟩ := List.mem_map.mp hw
    exact isWord_written n

theorem piece_of_textual {c : Command} (h : c.Textual) :
    ∀ w ∈ c.pieces, IsTrimmed w ∧ IsLine w := by
  intro w hw
  by_cases htyped : ∃ text commit clear, c = .typeText text commit clear
  · obtain ⟨text, commit, clear, rfl⟩ := htyped
    obtain ⟨htrimmed, hline, _⟩ := h
    have hinput : IsWord "input".toList := by decide
    have hw' : w = "input".toList ∨ w = text.toList := by
      simpa [pieces, opening, integers] using hw
    rcases hw' with rfl | rfl
    · exact ⟨hinput.isTrimmed, hinput.isLine⟩
    · exact ⟨htrimmed, hline⟩
  · have hword := isWord_of_mem_pieces (fun text commit clear hc => htyped ⟨_, _, _, hc⟩) w hw
    exact ⟨hword.isTrimmed, hword.isLine⟩

theorem pieces_ne_nil (c : Command) : c.pieces ≠ [] := by cases c <;> simp [pieces, opening]

theorem isTrimmed_line {c : Command} (h : c.Textual) : IsTrimmed c.line :=
  isTrimmed_spaceOut (fun w hw => (piece_of_textual h w hw).1) c.pieces_ne_nil

theorem isLine_line {c : Command} (h : c.Textual) : IsLine c.line :=
  isLine_spaceOut fun w hw => (piece_of_textual h w hw).2

/-- A canonical line starts with a keyword. -/
theorem isSkipped_line (c : Command) : Script.isSkipped c.line = false := by
  cases c with
  | press button => cases button <;> rfl
  | tap | swipe | scroll | typeText | wait =>
    obtain ⟨rest, hrest⟩ := exists_spaceOut_cons _ _
    exact (congrArg Script.isSkipped hrest).trans rfl

/-! ## Reading a canonical line -/

theorem spaced_line {c : Command} (h : ∀ text commit clear, c ≠ .typeText text commit clear) :
    Spaced c.line c.pieces := spaced_spaceOut (isWord_of_mem_pieces h)

/-- A textual command is what its canonical line means. -/
theorem means_line (settings : Settings) {c : Command} (h : c.Textual) (hshort : c.IsShort) :
    Means settings c.line c := by
  have hdenotes : ∀ n ∈ c.integers, Numeral.Denotes (Numeral.written n) n :=
    fun n hn => Numeral.denotes_written (hshort n hn)
  cases c with
  | tap points duration =>
    obtain ⟨hone, hpos⟩ := h
    obtain ⟨p, rfl⟩ := List.length_eq_one_iff.mp hone
    exact .tap (spaced_line (by simp)) (by decide +kernel) (hdenotes _ (by simp [integers]))
      (hdenotes _ (by simp [integers])) (.given (hdenotes _ (by simp [integers])) hpos)
  | swipe start finish duration =>
    exact .swipe (spaced_line (by simp)) (by decide +kernel) (hdenotes _ (by simp [integers]))
      (hdenotes _ (by simp [integers])) (hdenotes _ (by simp [integers]))
      (hdenotes _ (by simp [integers])) (.given (hdenotes _ (by simp [integers])) h)
  | scroll direction duration =>
    refine .scroll direction (spaced_line (by simp)) (by decide +kernel) ?_
      (.given (hdenotes _ (by simp [integers])) h)
    cases direction <;> decide +kernel
  | typeText text commit clear =>
    obtain ⟨htrimmed, _, rfl, rfl⟩ := h
    have htyped : Typed (Command.typeText text false false).line "input".toList text.toList :=
      ⟨[], [' '], [], by simp [line, pieces, opening, integers, spaceOut], isGap_nil,
        by decide, by simp, by decide, htrimmed, isGap_nil⟩
    have hmeans : Means settings (Command.typeText text false false).line
        (.typeText (String.ofList text.toList) false false) := .input htyped (by decide +kernel)
    rwa [String.ofList_toList] at hmeans
  | wait duration =>
    exact .wait (spaced_line (by simp)) (by decide +kernel) (hdenotes _ (by simp [integers])) h
  | press button =>
    refine .press button (spaced_line (by simp)) ?_
    cases button <;> decide +kernel

/-- Every line means a textual command, if it means any. -/
theorem Means.textual {settings : Settings} {line : List Char} {c : Command}
    (h : Means settings line c) (hline : IsLine line) : c.Textual := by
  have hpositive : ∀ {standard ws d}, Lasts standard ws d → 1 ≤ d := by
    rintro standard ws d (hd | ⟨_, hd⟩ | ⟨_, hd⟩) <;> exact hd
  cases h with
  | tap _ _ _ _ hd => exact ⟨rfl, hpositive hd⟩
  | swipe _ _ _ _ _ _ hd => exact hpositive hd
  | scroll _ _ _ _ hd => exact hpositive hd
  | @input word text htyped _ =>
    obtain ⟨gap, sep, tail, rfl, _, _, _, _, htrimmed, _⟩ := htyped
    have hsub : text ⊆ gap ++ (word ++ sep ++ text) ++ tail := by
      intro c hc
      simp [hc]
    refine ⟨?_, ?_, rfl, rfl⟩ <;> rw [String.toList_ofList]
    · exact htrimmed
    · exact hline.subset hsub
  | wait _ _ _ hn => exact hn
  | press => trivial

end Command

namespace Script

/-! ## Scripts line by line -/

theorem commandOf?_line (settings : Settings) {c : Command} (h : c.Textual)
    (hshort : c.IsShort) : commandOf? settings c.line = some c := by
  rw [commandOf?, trim_of_isTrimmed (Command.isTrimmed_line h), c.isSkipped_line]
  exact (Command.means_line settings h hshort).ofLine?_eq

theorem textual_of_commandOf? {settings : Settings} {line : List Char} (hline : IsLine line)
    {c : Command} (h : commandOf? settings line = some c) : c.Textual := by
  rw [commandOf?] at h
  split at h
  · contradiction
  · have htrim : IsLine (trim line) := hline.subset fun d hd => mem_of_mem_trim hd
    exact (Command.Means.of_ofLine? h).textual htrim

/-- The commands on the lines of a text. -/
def commandsIn (settings : Settings) (cs : List Char) : List Command :=
  (lines cs).filterMap (commandOf? settings)

theorem commandsIn_break (settings : Settings) {c : Char} (hc : isBreak c = true)
    (cs : List Char) : commandsIn settings (c :: cs) = commandsIn settings cs := by
  have hempty : commandOf? settings [] = none := rfl
  rcases lines_cons_break hc cs with hlines | ⟨cs', _, rfl, hlines⟩
  · rw [commandsIn, hlines, List.filterMap_cons_none hempty, commandsIn]
  · -- the second half of a long break would give one more empty line
    rw [commandsIn, commandsIn, hlines, lines_cons_newline, List.filterMap_cons_none hempty]

theorem commandsIn_breaks (settings : Settings) {breaks : List Char}
    (h : ∀ c ∈ breaks, isBreak c = true) (cs : List Char) :
    commandsIn settings (breaks ++ cs) = commandsIn settings cs := by
  induction breaks with
  | nil => rfl
  | cons c breaks ih =>
    obtain ⟨hc, hbreaks⟩ := List.forall_mem_cons.mp h
    rw [List.cons_append, commandsIn_break settings hc, ih hbreaks]

/-- The command on a line comes before those on the lines after it. -/
theorem commandsIn_append (settings : Settings) {line : List Char} (hline : IsLine line) {c : Char}
    (hc : isBreak c = true) (cs : List Char) :
    commandsIn settings (line ++ c :: cs) =
      (commandOf? settings line).toList ++ commandsIn settings cs := by
  obtain ⟨ls, hls⟩ : ∃ ls, lines (c :: cs) = [] :: ls := by
    rcases lines_cons_break hc cs with hlines | ⟨_, _, _, hlines⟩ <;> exact ⟨_, hlines⟩
  have hrest : commandsIn settings cs = ls.filterMap (commandOf? settings) := by
    rw [← commandsIn_break settings hc, commandsIn, hls]
    rfl
  rw [hrest, commandsIn, lines_append hline hls]
  cases hcommand : commandOf? settings line <;> simp [hcommand]

/-- Canonical lines are read as their commands, whatever breaks are between them. -/
theorem commandsIn_joined (settings : Settings) {cs : List Command}
    (h : ∀ c ∈ cs, c.Textual ∧ c.IsShort) {text : List Char}
    (hjoined : Joined (cs.map Command.line) text) : commandsIn settings text = cs := by
  induction cs generalizing text with
  | nil =>
    cases hjoined
    rfl
  | cons c cs ih =>
    obtain ⟨⟨htextual, hshort⟩, hcs⟩ := List.forall_mem_cons.mp h
    have hread := commandOf?_line settings htextual hshort
    have hline := Command.isLine_line htextual
    generalize hlines : (c :: cs).map Command.line = ls at hjoined
    cases hjoined with
    | none => cases hlines
    | last line =>
      obtain ⟨rfl, hnil⟩ := List.cons.inj hlines
      obtain rfl := List.map_eq_nil_iff.mp hnil
      have hne : c.line ≠ [] := by
        intro hnil
        have htrimmed := Command.isTrimmed_line htextual
        simp [IsTrimmed, hnil, startsWord] at htrimmed
      rw [commandsIn, lines_of_isLine hline hne]
      simp [hread]
    | @next line breaks lines rest hbreaks _ hrest =>
      obtain ⟨rfl, rfl⟩ := List.cons.inj hlines
      obtain ⟨b, breaks, rfl⟩ := List.exists_cons_of_ne_nil hbreaks.1
      obtain ⟨hb, hbreaks⟩ := List.forall_mem_cons.mp hbreaks.2
      rw [List.append_assoc, List.cons_append, commandsIn_append settings hline hb, hread,
        commandsIn_breaks settings hbreaks, ih hcs hrest]
      rfl

/-- Scripts hold textual commands only. Of textual commands whose integers are not too long,
any list is what the script says that has their canonical lines. -/
theorem commands_are_textual_lines (settings : Settings) :
    (∀ script, ∀ c ∈ commands settings script, c.Textual) ∧
      ∀ cs : List Command, (∀ c ∈ cs, c.Textual ∧ c.IsShort) →
        ∀ script, Joined (cs.map Command.line) script.toList → commands settings script = cs := by
  constructor
  · intro script c hc
    obtain ⟨line, hline, hread⟩ := List.mem_filterMap.mp hc
    exact textual_of_commandOf? (isLine_of_mem_lines _ line hline) hread
  · intro cs hcs script hjoined
    exact commandsIn_joined settings hcs hjoined

/-- A script of six lines, with breaks of all kinds between them. -/
theorem six_lines_read :
    let cs : List Command := [.tap [⟨5, -7⟩] 1, .swipe ⟨0, 0⟩ ⟨-10, 20⟩ 300, .scroll .left 2,
      .typeText "say  'tap 1 2'" false false, .wait 0, .press .recents]
    let script := "tap 5 -7 1\r\nswipe 0 0 -10 20 300\x0bscroll left 2\n\n\x1c" ++
      "input say  'tap 1 2'\u2028wait 0\u0085recents"
    (∀ c ∈ cs, c.Textual ∧ c.IsShort) ∧ Joined (cs.map Command.line) script.toList ∧
      commands .default script = cs := by
  intro cs script
  have hcs : ∀ c ∈ cs, c.Textual ∧ c.IsShort := by decide +kernel
  have hlines : cs.map Command.line = ["tap 5 -7 1".toList, "swipe 0 0 -10 20 300".toList,
      "scroll left 2".toList, "input say  'tap 1 2'".toList, "wait 0".toList,
      "recents".toList] := by decide +kernel
  have hscript : script.toList = "tap 5 -7 1".toList ++ ['\r', '\n'] ++
      ("swipe 0 0 -10 20 300".toList ++ ['\x0b'] ++
        ("scroll left 2".toList ++ ['\n', '\n', '\x1c'] ++
          ("input say  'tap 1 2'".toList ++ ['\u2028'] ++ ("wait 0".toList ++ ['\u0085'] ++
            "recents".toList)))) := by decide +kernel
  have hjoined : Joined (cs.map Command.line) script.toList := by
    rw [hlines, hscript]
    refine .next ?_ ?_ (.next ?_ ?_ (.next ?_ ?_ (.next ?_ ?_ (.next ?_ ?_ (.last _))))) <;> decide
  exact ⟨hcs, hjoined, (commands_are_textual_lines .default).2 cs hcs script hjoined⟩

end Script

end GestureScript
