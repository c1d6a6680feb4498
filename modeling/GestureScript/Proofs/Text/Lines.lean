import GestureScript.Text.Lines
import GestureScript.Proofs.Text.Words

/-!
# The lines of a text

No line holds a line break. A text that starts with a line break has an empty first line,
and what is put in front of it becomes that line.
-/

set_option autoImplicit false

namespace GestureScript.Text

/-- A text on one line. -/
def IsLine (cs : List Char) : Prop := ∀ c ∈ cs, isBreak c = false

instance : DecidablePred IsLine := fun cs =>
  decidable_of_iff (cs.all (!isBreak ·) = true) (by simp [IsLine])

/-- One line break or more, and nothing else. -/
def IsBreaks (cs : List Char) : Prop := cs ≠ [] ∧ ∀ c ∈ cs, isBreak c = true

instance : DecidablePred IsBreaks := fun cs =>
  decidable_of_iff ((!cs.isEmpty && cs.all isBreak) = true) (by simp [IsBreaks])

theorem IsLine.append {cs ds : List Char} (hcs : IsLine cs) (hds : IsLine ds) :
    IsLine (cs ++ ds) := List.forall_mem_append.mpr ⟨hcs, hds⟩

theorem IsLine.subset {cs ds : List Char} (h : IsLine ds) (hsub : cs ⊆ ds) : IsLine cs :=
  fun c hc => h c (hsub hc)

/-- Every line break is a blank. -/
theorem isBlank_of_isBreak {c : Char} (h : isBreak c = true) : isBlank c = true := by
  simp only [isBreak, isBlank, Bool.or_eq_true, Bool.and_eq_true, decide_eq_true_eq,
    beq_iff_eq] at h ⊢
  omega

theorem IsWord.isLine {word : List Char} (h : IsWord word) : IsLine word := by
  intro c hc
  cases hbreak : isBreak c with
  | false => rfl
  | true =>
    have hblank : isBlank c = true := isBlank_of_isBreak hbreak
    simp [h.2 c hc] at hblank

theorem isLine_consFirst {c : Char} (hc : isBreak c = false) {ls : List (List Char)}
    (h : ∀ l ∈ ls, IsLine l) : ∀ l ∈ consFirst c ls, IsLine l := by
  intro l hl
  cases ls with
  | nil =>
    obtain rfl := List.mem_singleton.mp hl
    intro d hd
    rwa [List.mem_singleton.mp hd]
  | cons first ls =>
    rcases List.mem_cons.mp hl with rfl | hl
    · exact List.forall_mem_cons.mpr ⟨hc, h first (by simp)⟩
    · exact h l (by simp [hl])

/-- The lines of a text hold no line breaks. -/
theorem isLine_of_mem_lines (cs : List Char) : ∀ l ∈ lines cs, IsLine l := by
  fun_induction lines cs with
  | case1 => simp
  | case2 cs ih => exact List.forall_mem_cons.mpr ⟨by simp [IsLine], ih⟩
  | case3 c cs _ _ ih => exact List.forall_mem_cons.mpr ⟨by simp [IsLine], ih⟩
  | case4 c cs _ hc ih => exact isLine_consFirst (by simpa using hc) ih

theorem lines_cons {c : Char} (hc : isBreak c = false) (cs : List Char) :
    lines (c :: cs) = consFirst c (lines cs) := by
  rw [lines]
  · simp [hc]
  · rintro cs' rfl
    exact absurd hc (by decide)

/-- After a break comes another line, unless the break is the first half of a longer one. -/
theorem lines_cons_break {c : Char} (hc : isBreak c = true) (cs : List Char) :
    lines (c :: cs) = [] :: lines cs ∨
      ∃ cs', c = '\r' ∧ cs = '\n' :: cs' ∧ lines (c :: cs) = [] :: lines cs' := by
  by_cases hpair : ∃ cs', c = '\r' ∧ cs = '\n' :: cs'
  · obtain ⟨cs', rfl, rfl⟩ := hpair
    exact .inr ⟨cs', rfl, rfl, by rw [lines]⟩
  · left
    rw [lines]
    · simp [hc]
    · intro cs' hr hn
      exact hpair ⟨cs', hr, hn⟩

theorem lines_cons_newline (cs : List Char) : lines ('\n' :: cs) = [] :: lines cs := by
  rcases lines_cons_break (c := '\n') rfl cs with hlines | ⟨_, hr, _⟩
  · exact hlines
  · exact absurd hr (by decide)

/-- A text without line breaks, in front of a break. -/
theorem lines_append {line : List Char} (hline : IsLine line) {cs : List Char}
    {ls : List (List Char)} (h : lines cs = [] :: ls) : lines (line ++ cs) = line :: ls := by
  induction line with
  | nil => exact h
  | cons c line ih =>
    obtain ⟨hc, hline⟩ := List.forall_mem_cons.mp hline
    rw [List.cons_append, lines_cons hc, ih hline, consFirst_cons]

theorem lines_of_isLine {line : List Char} (hline : IsLine line) (hne : line ≠ []) :
    lines line = [line] := by
  induction line with
  | nil => exact absurd rfl hne
  | cons c line ih =>
    obtain ⟨hc, hline⟩ := List.forall_mem_cons.mp hline
    rw [lines_cons hc]
    cases line with
    | nil => rfl
    | cons d line => rw [ih hline (by simp), consFirst_cons]

/-! ## Cutting a text at its line breaks -/

/-- The texts that break a line. -/
def lineBreaks : List (List Char) :=
  [['\n'], ['\r'], ['\r', '\n'], ['\x0b'], ['\x0c'], ['\x1c'], ['\x1d'], ['\x1e'], ['\u0085'],
    ['\u2028'], ['\u2029']]

/-- The text has the lines in order, with a line break behind each; the last one may be without
a break if it is not empty. A carriage return is no break of its own before a line feed. -/
inductive Cut : List Char → List (List Char) → Prop
  | none : Cut [] []
  | last {line} : line ≠ [] → IsLine line → Cut line [line]
  | next {line br rest lines} : IsLine line → br ∈ lineBreaks →
      (br = ['\r'] → rest.head? ≠ some '\n') → Cut rest lines →
      Cut (line ++ (br ++ rest)) (line :: lines)

theorem mem_lineBreaks_of_isBreak {c : Char} (h : isBreak c = true) : [c] ∈ lineBreaks := by
  have hcode : c ∈ ['\n', '\r', '\x0b', '\x0c', '\x1c', '\x1d', '\x1e', '\u0085', '\u2028',
      '\u2029'] := by
    simp only [isBreak, Bool.or_eq_true, Bool.and_eq_true, decide_eq_true_eq, beq_iff_eq] at h
    simp only [List.mem_cons, List.not_mem_nil, or_false, ← Char.toNat_inj]
    show c.toNat = 10 ∨ c.toNat = 13 ∨ c.toNat = 11 ∨ c.toNat = 12 ∨ c.toNat = 28 ∨
      c.toNat = 29 ∨ c.toNat = 30 ∨ c.toNat = 0x85 ∨ c.toNat = 0x2028 ∨ c.toNat = 0x2029
    omega
  simp only [List.mem_cons, List.not_mem_nil, or_false] at hcode
  rcases hcode with rfl | rfl | rfl | rfl | rfl | rfl | rfl | rfl | rfl | rfl <;> decide

/-- A break is one character, or a carriage return and a line feed. -/
theorem cases_of_mem_lineBreaks {br : List Char} (h : br ∈ lineBreaks) :
    (∃ c, br = [c] ∧ isBreak c = true) ∨ br = ['\r', '\n'] := by
  simp only [lineBreaks, List.mem_cons, List.not_mem_nil, or_false] at h
  rcases h with rfl | rfl | rfl | rfl | rfl | rfl | rfl | rfl | rfl | rfl | rfl
  case inr.inr.inl => exact .inr rfl
  all_goals exact .inl ⟨_, rfl, by decide⟩

/-- A text that is not one line has a first line, and a break behind it. -/
theorem exists_break {cs : List Char} (h : ¬IsLine cs) :
    ∃ line c rest, cs = line ++ c :: rest ∧ IsLine line ∧ isBreak c = true := by
  induction cs with
  | nil => exact absurd (by simp [IsLine]) h
  | cons c cs ih =>
    by_cases hc : isBreak c = true
    · exact ⟨[], c, cs, rfl, by simp [IsLine], hc⟩
    · have hc : isBreak c = false := by simpa using hc
      obtain ⟨line, d, rest, rfl, hline, hd⟩ :=
        ih fun hcs => h (List.forall_mem_cons.mpr ⟨hc, hcs⟩)
      exact ⟨c :: line, d, rest, rfl, List.forall_mem_cons.mpr ⟨hc, hline⟩, hd⟩

/-- A break that is not the first half of a longer one ends a line by itself. -/
theorem lines_cons_single {c : Char} (hc : isBreak c = true) {cs : List Char}
    (h : c = '\r' → cs.head? ≠ some '\n') : lines (c :: cs) = [] :: lines cs := by
  rcases lines_cons_break hc cs with hlines | ⟨cs', hr, rfl, -⟩
  · exact hlines
  · exact absurd rfl (h hr)

theorem lines_cons_pair (cs : List Char) : lines ('\r' :: '\n' :: cs) = [] :: lines cs := by
  rw [lines]

/-- The lines of a text are what it is cut into. -/
theorem cut_lines (cs : List Char) : Cut cs (lines cs) := by
  induction hlength : cs.length using Nat.strongRecOn generalizing cs with
  | ind n ih =>
    by_cases hline : IsLine cs
    · by_cases hne : cs = []
      · subst hne
        exact .none
      · rw [lines_of_isLine hline hne]
        exact .last hne hline
    · obtain ⟨line, c, rest, rfl, hfirst, hc⟩ := exists_break hline
      simp only [List.length_append, List.length_cons] at hlength
      by_cases hpair : c = '\r' ∧ rest.head? = some '\n'
      · obtain ⟨rfl, hhead⟩ := hpair
        obtain ⟨rest, rfl⟩ := List.head?_eq_some_iff.mp hhead
        simp only [List.length_cons] at hlength
        rw [lines_append hfirst (lines_cons_pair rest)]
        have hpair : ['\r', '\n'] ∈ lineBreaks := by decide
        exact .next hfirst hpair (by simp) (ih _ (by omega) rest rfl)
      · have hsingle : c = '\r' → rest.head? ≠ some '\n' := fun hr hn => hpair ⟨hr, hn⟩
        rw [lines_append hfirst (lines_cons_single hc hsingle)]
        exact .next hfirst (mem_lineBreaks_of_isBreak hc) (by simpa using hsingle)
          (ih _ (by omega) rest rfl)

theorem Cut.lines_eq {cs : List Char} {ls : List (List Char)} (h : Cut cs ls) :
    lines cs = ls := by
  induction h with
  | none => rfl
  | last hne hline => exact lines_of_isLine hline hne
  | @next line br rest ls hline hbr hsingle _ ih =>
    rcases cases_of_mem_lineBreaks hbr with ⟨c, rfl, hc⟩ | rfl
    · rw [← ih]
      exact lines_append hline (lines_cons_single hc fun hr => hsingle (by rw [hr]))
    · rw [← ih]
      exact lines_append hline (lines_cons_pair rest)

/-- A text is cut into its lines in one way. -/
theorem lines_eq_iff (cs : List Char) (ls : List (List Char)) : lines cs = ls ↔ Cut cs ls :=
  ⟨fun h => h ▸ cut_lines cs, Cut.lines_eq⟩

/-- Lines with line breaks between any two of them. -/
inductive Joined : List (List Char) → List Char → Prop
  | none : Joined [] []
  | last (line : List Char) : Joined [line] line
  | next {line breaks lines cs} : IsBreaks breaks → lines ≠ [] → Joined lines cs →
      Joined (line :: lines) (line ++ breaks ++ cs)

/-! ## Blanks at the ends of a line -/

theorem mem_of_mem_trim {c : Char} {cs : List Char} (h : c ∈ trim cs) : c ∈ cs := by
  have hleft : ∀ ds : List Char, trimLeft ds ⊆ ds :=
    fun ds => (List.dropWhile_sublist _).subset
  have hright : c ∈ trimLeft (trimLeft cs).reverse := List.mem_reverse.mp h
  exact hleft _ (List.mem_reverse.mp (hleft _ hright))

theorem trim_of_isTrimmed {cs : List Char} (h : IsTrimmed cs) : trim cs = cs := by
  have htrim := trim_eq_of_isTrimmed isGap_nil h isGap_nil
  rwa [List.nil_append, List.append_nil] at htrim

/-- A text is trimmed to nothing when it is a gap. -/
theorem trim_eq_nil_iff (cs : List Char) : trim cs = [] ↔ IsGap cs := by
  constructor
  · intro hnil
    obtain ⟨gap, tail, hgap, htail, hcs, -⟩ := exists_gaps_trim cs
    rw [hcs, hnil, List.append_nil]
    exact List.forall_mem_append.mpr ⟨hgap, htail⟩
  · intro hgap
    obtain ⟨-, -, -, -, -, hnil | ⟨hstart, -⟩⟩ := exists_gaps_trim cs
    · exact hnil
    · -- a trimmed text starts with a character of the gap that is no blank
      obtain ⟨c, core, hcore⟩ : ∃ c core, trim cs = c :: core := by
        apply List.exists_cons_of_ne_nil
        intro hnil
        simp [hnil, startsWord] at hstart
      have hc : isBlank c = true := hgap c (mem_of_mem_trim (by simp [hcore]))
      simp [hcore, startsWord, hc] at hstart

/-! ## Texts with a blank between one and the next -/

/-- The texts in order, with one blank in between. -/
def spaceOut : List (List Char) → List Char
  | [] => []
  | [cs] => cs
  | cs :: more => cs ++ [' '] ++ spaceOut more

theorem spaceOut_cons_cons (cs ds : List Char) (more : List (List Char)) :
    spaceOut (cs :: ds :: more) = cs ++ [' '] ++ spaceOut (ds :: more) := rfl

theorem exists_spaceOut_cons (cs : List Char) (more : List (List Char)) :
    ∃ rest, spaceOut (cs :: more) = cs ++ rest := by
  cases more with
  | nil => exact ⟨[], (List.append_nil cs).symm⟩
  | cons ds more => exact ⟨_, List.append_assoc ..⟩

theorem spaced_spaceOut {ws : List (List Char)} (h : ∀ w ∈ ws, IsWord w) :
    Spaced (spaceOut ws) ws := by
  induction ws with
  | nil => exact .gap isGap_nil
  | cons w ws ih =>
    obtain ⟨hw, hws⟩ := List.forall_mem_cons.mp h
    cases ws with
    | nil =>
      have hword := @Spaced.word [] w [] [] isGap_nil hw trivial (.gap isGap_nil)
      rwa [List.nil_append, List.append_nil] at hword
    | cons v ws =>
      have hblank : isBlank ' ' = true := by decide
      have hrest : Spaced (' ' :: spaceOut (v :: ws)) (v :: ws) := (ih hws).cons_blank hblank
      have hstop : EndsWord (' ' :: spaceOut (v :: ws)) := hblank
      have hword := @Spaced.word [] w _ _ isGap_nil hw hstop hrest
      rw [spaceOut_cons_cons, List.append_assoc]
      exact hword

theorem isTrimmed_spaceOut {ws : List (List Char)} (h : ∀ w ∈ ws, IsTrimmed w) (hne : ws ≠ []) :
    IsTrimmed (spaceOut ws) := by
  induction ws with
  | nil => exact absurd rfl hne
  | cons w ws ih =>
    obtain ⟨hw, hws⟩ := List.forall_mem_cons.mp h
    cases ws with
    | nil => exact hw
    | cons v ws => exact hw.append _ (ih hws (by simp))

theorem isLine_spaceOut {ws : List (List Char)} (h : ∀ w ∈ ws, IsLine w) :
    IsLine (spaceOut ws) := by
  induction ws with
  | nil => simp [spaceOut, IsLine]
  | cons w ws ih =>
    obtain ⟨hw, hws⟩ := List.forall_mem_cons.mp h
    cases ws with
    | nil => exact hw
    | cons v ws =>
      have hblank : IsLine [' '] := by simp [IsLine]; decide
      exact (hw.append hblank).append (ih hws)

end GestureScript.Text
