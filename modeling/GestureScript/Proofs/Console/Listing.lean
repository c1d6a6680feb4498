import GestureScript.Proofs.Console.ExitCode
import Mathlib.Data.List.Induction

/-!
# Listings

A listing has a line for each command, which should be its display form. The console reads each
line as markup, though, so a listing shows the display forms just when nothing in the texts to
type means anything to the console. Such listings tell apart whatever the display forms tell
apart.
-/

set_option autoImplicit false

namespace GestureScript

/-! ## Pieces of a longer text -/

namespace Text

variable {separator : Char} {xs : List Char}

theorem splitOn_append_left (hxs : separator ∉ xs) {cs p : List Char} {ps : List (List Char)}
    (h : splitOn separator cs = p :: ps) : splitOn separator (xs ++ cs) = (xs ++ p) :: ps := by
  induction xs with
  | nil => exact h
  | cons x xs ih =>
    obtain ⟨hx, hxs⟩ := not_or.mp (mt List.mem_cons.mpr hxs)
    rw [List.cons_append, splitOn, if_neg (by simpa using Ne.symm hx), ih hxs, consFirst_cons]
    rfl

theorem splitOn_append_right (hxs : separator ∉ xs) (cs : List Char) :
    ∃ ps p, splitOn separator cs = ps ++ [p] ∧ splitOn separator (cs ++ xs) = ps ++ [p ++ xs] := by
  induction cs with
  | nil => exact ⟨[], [], rfl, splitOn_of_not_mem hxs⟩
  | cons c cs ih =>
    obtain ⟨ps, p, hsplit, happend⟩ := ih
    by_cases hc : c = separator
    · subst hc
      exact ⟨[] :: ps, p, by simp [hsplit], by simp [happend]⟩
    · have hne : ¬ (c == separator) = true := by simpa using hc
      rw [List.cons_append, splitOn, splitOn, if_neg hne, if_neg hne, hsplit, happend]
      cases ps with
      | nil => exact ⟨[], c :: p, rfl, rfl⟩
      | cons q qs => exact ⟨(c :: q) :: qs, p, rfl, rfl⟩

theorem splitOn_append_separator (hxs : separator ∉ xs) (cs : List Char) :
    splitOn separator (xs ++ separator :: cs) = xs :: splitOn separator cs := by
  rw [splitOn_eq, splitOn_eq, List.splitOn_append_cons_self_of_not_mem hxs]

theorem separator_not_mem {cs p : List Char} (h : p ∈ splitOn separator cs) : separator ∉ p := by
  induction cs generalizing p with
  | nil => simp_all
  | cons c cs ih =>
    rw [splitOn] at h
    split at h
    next hc =>
      rcases List.mem_cons.mp h with rfl | hmem
      · simp
      · exact ih hmem
    next hc =>
      obtain ⟨q, qs, hsplit⟩ := List.exists_cons_of_ne_nil (splitOn_ne_nil separator cs)
      rw [hsplit] at ih
      rw [hsplit, consFirst_cons] at h
      have hne : separator ≠ c := fun heq => hc (by simp [heq])
      rcases List.mem_cons.mp h with rfl | hmem
      · exact List.not_mem_cons_of_ne_of_not_mem hne (ih (by simp))
      · exact ih (List.mem_cons_of_mem q hmem)

/-- What starts with a character that is not among some others is found behind them. -/
theorem infix_of_append_left {c : Char} {w : List Char} (hc : c ∉ xs) {cs : List Char}
    (h : c :: w <:+: xs ++ cs) : c :: w <:+: cs := by
  induction xs with
  | nil => exact h
  | cons x xs ih =>
    obtain ⟨hx, hxs⟩ := not_or.mp (mt List.mem_cons.mpr hc)
    rcases List.infix_cons_iff.mp h with hfront | hwithin
    · exact absurd (List.cons_prefix_cons.mp hfront).1 hx
    · exact ih hxs hwithin

theorem infix_of_append_right {c : Char} {w : List Char} (hc : c ∉ xs) {cs : List Char}
    (h : w ++ [c] <:+: cs ++ xs) : w ++ [c] <:+: cs := by
  rw [← List.reverse_infix] at h ⊢
  simp only [List.reverse_append, List.reverse_singleton, List.singleton_append] at h ⊢
  exact infix_of_append_left (by simpa using hc) h

end Text

namespace Console

open Markup Text

/-! ## Emoji in a longer text -/

namespace Emoji

theorem join_cons_cons (p q : List Char) {ps : List (List Char)} (h : ps ≠ []) :
    join (p :: q :: ps) =
      if q.any isBlank then p ++ ':' :: join (q :: ps) else p ++ shown q ++ join ps := by
  obtain ⟨r, rest, rfl⟩ := List.exists_cons_of_ne_nil h
  rw [join]

theorem join_append_left (xs p : List Char) (ps : List (List Char)) :
    join ((xs ++ p) :: ps) = xs ++ join (p :: ps) := by
  cases ps with
  | nil => rfl
  | cons q qs =>
    by_cases hqs : qs = []
    · subst hqs
      simp [join]
    · rw [join_cons_cons _ _ hqs, join_cons_cons _ _ hqs]
      split <;> simp

theorem join_append_right (xs p : List Char) (ps : List (List Char)) :
    join (ps ++ [p ++ xs]) = join (ps ++ [p]) ++ xs := by
  induction ps using List.twoStepInduction with
  | nil => rfl
  | singleton a => simp [join]
  | cons_cons a b ps ih ih' =>
    simp only [List.cons_append]
    rw [join_cons_cons _ _ (by simp), join_cons_cons _ _ (by simp), ih, ← List.cons_append, ih']
    split <;> simp

theorem replaceCodes_append_left {xs : List Char} (hxs : ':' ∉ xs) (cs : List Char) :
    replaceCodes (xs ++ cs) = xs ++ replaceCodes cs := by
  obtain ⟨p, ps, hsplit⟩ := List.exists_cons_of_ne_nil (splitOn_ne_nil ':' cs)
  rw [replaceCodes, splitOn_append_left hxs hsplit, join_append_left, replaceCodes, hsplit]

theorem replaceCodes_append_right {xs : List Char} (hxs : ':' ∉ xs) (cs : List Char) :
    replaceCodes (cs ++ xs) = replaceCodes cs ++ xs := by
  obtain ⟨ps, p, hsplit, happend⟩ := splitOn_append_right hxs cs
  rw [replaceCodes, happend, join_append_right, replaceCodes, hsplit]

/-- A colon before a blank starts no code. -/
theorem replaceCodes_colon_blank {c : Char} (hblank : isBlank c = true) (hc : c ≠ ':')
    (cs : List Char) : replaceCodes (':' :: c :: cs) = ':' :: replaceCodes (c :: cs) := by
  obtain ⟨p, ps, hsplit⟩ := List.exists_cons_of_ne_nil (splitOn_ne_nil ':' cs)
  have hcolon : ':' ∉ [c] := by simpa using Ne.symm hc
  have hpieces : splitOn ':' (c :: cs) = (c :: p) :: ps := splitOn_append_left hcolon hsplit
  have hany : (c :: p).any isBlank = true := by simp [hblank]
  rw [replaceCodes, splitOn_cons_self, hpieces, replaceCodes, hpieces]
  by_cases hps : ps = []
  · subst hps
    rfl
  · rw [join_cons_cons _ _ hps, if_pos hany, List.nil_append]

end Emoji

/-! ## Lines that appear as they are -/

namespace Layout

theorem tab_not_mem_line (cs : List Char) : '\t' ∉ line cs := by
  have hpieces : ∀ column (ps : List (List Char)), (∀ p ∈ ps, '\t' ∉ p) →
      '\t' ∉ pieces column ps := by
    intro column ps h
    fun_induction pieces column ps with
    | case1 => simp
    | case2 column p => exact h p (by simp)
    | case3 column p ps hps column' ih =>
      obtain ⟨hp, hps⟩ := List.forall_mem_cons.mp h
      have htab : '\t' ∉ ' ' :: List.replicate (blanksAt column') ' ' := by
        simp [List.mem_replicate]
      exact List.not_mem_append (List.not_mem_append hp htab) (ih hps)
  exact hpieces 0 _ fun p hp => separator_not_mem hp

theorem text_of_line {cs : List Char} (hline : '\n' ∉ cs) :
    text cs = line (visible cs) ++ ['\n'] := by
  have hvisible : '\n' ∉ visible cs := fun hc => hline (List.mem_filter.mp hc).1
  rw [text, splitOn_of_not_mem hvisible]
  simp

/-- A line that is laid out as it is has nothing in it that is laid out differently. -/
theorem text_eq_iff {cs : List Char} (hline : '\n' ∉ cs) :
    text cs = cs ++ ['\n'] ↔ IsPlain cs := by
  refine ⟨fun h => ?_, text_of_plain⟩
  have hlaid : line (visible cs) = cs := by simpa [text_of_line hline] using h
  have hvisible : visible cs = cs := by
    have hfades := fades_line (visible cs)
    rw [hlaid] at hfades
    exact (fades_visible cs).eq_of_trans hfades
  intro c hc
  refine ⟨by simpa using List.filter_eq_self.mp hvisible c hc, ?_, fun heq => hline (heq ▸ hc)⟩
  rintro rfl
  rw [← hlaid] at hc
  exact tab_not_mem_line _ hc

end Layout

namespace Markup

theorem unescape_eq_iff (cs : List Char) : unescape cs = cs ↔ ¬ ['\\', '['] <:+: cs := by
  fun_induction unescape cs with
  | case1 cs ih =>
    refine ⟨fun h => by simp at h, fun h => absurd (List.infix_cons_iff.mpr (.inl ?_)) h⟩
    exact ⟨cs, rfl⟩
  | case2 c cs hc ih =>
    have hstart : ¬ ['\\', '['] <+: c :: cs := by
      rintro ⟨rest, heq⟩
      cases heq
      exact hc _ rfl rfl
    rw [List.cons_eq_cons, List.infix_cons_iff, ih]
    simp [hstart]
  | case3 => simp

/-- A text in which nothing means anything to a console: it has no tag and no backslash before
a bracket, no code of an emoji, and only characters that are laid out as they are. -/
structure IsTransparent (cs : List Char) : Prop where
  untagged : IsUntagged cs
  unescaped : ¬ ['\\', '['] <:+: cs
  uncoded : Emoji.replaceCodes cs = cs
  plain : Layout.IsPlain cs

instance : DecidablePred IsTransparent := fun cs =>
  decidable_of_iff
    (IsUntagged cs ∧ ¬ ['\\', '['] <:+: cs ∧ Emoji.replaceCodes cs = cs ∧ Layout.IsPlain cs)
    ⟨fun h => ⟨h.1, h.2.1, h.2.2.1, h.2.2.2⟩, fun h => ⟨h.1, h.2, h.3, h.4⟩⟩

theorem fades_appearance {cs text : List Char} (h : shown cs = .ok text) :
    Fades (cs ++ ['\n']) (Layout.text text) := by
  have hshown : Fades cs text := by
    rw [shown_eq h]
    exact (fades_plainText cs).trans (fades_shownPieces _)
  exact (hshown.append (.refl _)).trans (Layout.fades_text text)

/-- A line appears as it is just when nothing in it means anything to the console. -/
theorem appears_iff {cs : List Char} (hline : '\n' ∉ cs) :
    (∃ text, shown cs = .ok text ∧ Layout.text text = cs ++ ['\n']) ↔ IsTransparent cs := by
  constructor
  · rintro ⟨text, hshown, htext⟩
    have hplainText := fades_plainText cs
    have hpieces := fades_shownPieces (pieces cs)
    rw [← shown_eq hshown] at hpieces
    -- Nothing was lost on the whole way, so nothing was lost on any part of it.
    obtain rfl : text = cs := by
      have hlaid := Layout.fades_text text
      rw [htext] at hlaid
      have heq := ((hplainText.trans hpieces).append (.refl ['\n'])).eq_of_trans hlaid
      exact List.append_cancel_right heq
    have huntagged : IsUntagged text :=
      isUntagged_of_plainText (hplainText.eq_of_trans hpieces)
    have hsame : shownPlain (unescape text) = text :=
      Except.ok.inj ((shown_of_untagged huntagged).symm.trans hshown)
    have hunescaped : unescape text = text := by
      have hplain := fades_shownPlain (unescape text)
      rw [hsame] at hplain
      exact (fades_unescape text).eq_of_trans hplain
    have huncoded : Emoji.replaceCodes text = text := by
      rw [hunescaped] at hsame
      exact replaceCodes_of_shownPlain hsame
    exact ⟨huntagged, (unescape_eq_iff text).mp hunescaped, huncoded,
      (Layout.text_eq_iff hline).mp htext⟩
  · rintro ⟨huntagged, hunescaped, huncoded, hplain⟩
    have hvisible : Layout.visible cs = cs :=
      List.filter_eq_self.mpr fun c hc => by simp [(hplain c hc).1]
    refine ⟨cs, ?_, Layout.text_of_plain hplain⟩
    rw [shown_of_untagged huntagged, (unescape_eq_iff cs).mpr hunescaped, shownPlain, huncoded,
      hvisible]

/-- Without signs nothing means anything. -/
theorem isTransparent_of_signs {cs : List Char} (h : signs cs = 0) : IsTransparent cs where
  untagged := isUntagged_of_signs h
  unescaped := (unescape_eq_iff cs).mp ((fades_unescape cs).eq_of_signs h)
  uncoded := (Emoji.fades_replaceCodes cs).eq_of_signs h
  plain c hc := by
    have hsign := List.countP_eq_zero.mp h c hc
    simp only [isSign, Bool.or_eq_true, beq_iff_eq, not_or] at hsign
    exact ⟨by simpa using hsign.2, hsign.1.1.2, hsign.1.2⟩

end Markup

end Console

/-! ## Display forms -/

open Console Markup Text

namespace Command

/-- A text to type stands between quotes, which keep tags and codes from the words before it. -/
theorem isTransparent_typeText (text : String) (commit clear : Bool) :
    IsTransparent (typeText text commit clear).displayChars ↔ IsTransparent text.toList := by
  let before := "Input: \"".toList
  have hsplit : before = "Input".toList ++ ':' :: ' ' :: ['"'] := by decide
  have hdisplay : (typeText text commit clear).displayChars = before ++ text.toList ++ ['"'] := rfl
  have hmiddle : text.toList <:+: before ++ text.toList ++ ['"'] := ⟨before, ['"'], rfl⟩
  have hcodes : Emoji.replaceCodes (before ++ text.toList ++ ['"']) =
      before ++ Emoji.replaceCodes text.toList ++ ['"'] := by
    have hcolon : ':' ∉ "Input".toList := by decide
    have hquote : ':' ∉ [' ', '"'] := by decide
    have hafter : ∀ cs : List Char, before ++ cs = "Input".toList ++ ':' :: ([' ', '"'] ++ cs) :=
      fun cs => by simp [hsplit]
    have hblank : Emoji.replaceCodes (':' :: ([' ', '"'] ++ text.toList)) =
        ':' :: Emoji.replaceCodes ([' ', '"'] ++ text.toList) :=
      Emoji.replaceCodes_colon_blank rfl (by decide) _
    rw [Emoji.replaceCodes_append_right (by decide), hafter, hafter,
      Emoji.replaceCodes_append_left hcolon, hblank, Emoji.replaceCodes_append_left hquote]
  have hplain : Layout.IsPlain (before ++ text.toList ++ ['"']) ↔ Layout.IsPlain text.toList := by
    have hbefore : Layout.IsPlain before := by decide
    have hquote : Layout.IsPlain ['"'] := by decide
    unfold Layout.IsPlain at *
    rw [List.forall_mem_append, List.forall_mem_append]
    exact ⟨fun h => h.1.2, fun h => ⟨⟨hbefore, h⟩, hquote⟩⟩
  rw [hdisplay]
  constructor
  · rintro ⟨huntagged, hunescaped, huncoded, hshown⟩
    refine ⟨fun body hbody h => huntagged body hbody (h.trans hmiddle),
      fun h => hunescaped (h.trans hmiddle), ?_, hplain.mp hshown⟩
    rw [hcodes] at huncoded
    exact List.append_cancel_left (List.append_cancel_right huncoded)
  · rintro ⟨huntagged, hunescaped, huncoded, hshown⟩
    refine ⟨fun body hbody h => huntagged body hbody ?_, fun h => hunescaped ?_, ?_,
      hplain.mpr hshown⟩
    · have hbracket : '[' ∉ before := by decide
      exact infix_of_append_left hbracket (infix_of_append_right (w := '[' :: body) (by decide) h)
    · have hslash : '\\' ∉ before := by decide
      exact infix_of_append_left hslash (infix_of_append_right (w := ['\\']) (by decide) h)
    · rw [hcodes, huncoded]

theorem isTransparent_displayChars (c : Command) : IsTransparent c.displayChars ↔
    ∀ text commit clear, c = .typeText text commit clear → IsTransparent text.toList := by
  by_cases htyped : ∃ text commit clear, c = .typeText text commit clear
  · obtain ⟨text, commit, clear, rfl⟩ := htyped
    rw [isTransparent_typeText]
    constructor
    · rintro h _ _ _ ⟨⟩
      exact h
    · exact fun h => h text commit clear rfl
  · have hother : ∀ text commit clear, c ≠ .typeText text commit clear :=
      fun text commit clear heq => htyped ⟨text, commit, clear, heq⟩
    exact ⟨fun _ text commit clear heq => absurd heq (hother text commit clear),
      fun _ => isTransparent_of_signs (signs_displayChars hother)⟩

/-- The display form of a command in a script is on one line. -/
theorem newline_not_mem_displayChars {c : Command} (h : c.Textual) : '\n' ∉ c.displayChars := by
  by_cases htyped : ∃ text commit clear, c = .typeText text commit clear
  · obtain ⟨text, commit, clear, rfl⟩ := htyped
    obtain ⟨-, hline, -⟩ := h
    have hbefore : '\n' ∉ "Input: \"".toList := by decide
    have htext : '\n' ∉ text.toList := fun hc => by
      cases (hline '\n' hc).symm.trans (by decide : isBreak '\n' = true)
    exact List.not_mem_append (List.not_mem_append hbefore htext) (by decide)
  · have hsigns : signs c.displayChars = 0 :=
      signs_displayChars fun text commit clear heq => htyped ⟨text, commit, clear, heq⟩
    exact fun hc => List.countP_eq_zero.mp hsigns '\n' hc rfl

end Command

namespace Console.Session

/-! ## Listings of commands -/

/-- The display forms of some commands, each on a line of its own. -/
def displayLines (commands : List Command) : List Char :=
  (commands.map Command.displayChars).flatMap (· ++ ['\n'])

theorem displayLines_cons (c : Command) (cs : List Command) :
    displayLines (c :: cs) = (c.displayChars ++ ['\n']) ++ displayLines cs := rfl

theorem splitOn_displayLines {commands : List Command}
    (h : ∀ c ∈ commands, '\n' ∉ c.displayChars) :
    splitOn '\n' (displayLines commands) = commands.map Command.displayChars ++ [[]] := by
  induction commands with
  | nil => rfl
  | cons c cs ih =>
    obtain ⟨hc, hcs⟩ := List.forall_mem_cons.mp h
    rw [displayLines_cons, List.append_assoc, List.singleton_append,
      splitOn_append_separator hc, ih hcs]
    rfl

theorem fades_listing {commands : List Command} {output : List Char}
    (h : listing commands = .ok output) : Fades (displayLines commands) output := by
  induction commands generalizing output with
  | nil =>
    obtain rfl := Except.ok.inj h
    exact .refl _
  | cons c cs ih =>
    obtain ⟨text, rest, hshown, hrest, rfl⟩ := (listing_cons_eq_ok_iff c cs output).mp h
    exact (fades_appearance hshown).append (ih hrest)

/-- A listing shows the display forms just when each of them appears as it is. -/
theorem listing_eq_iff {commands : List Command} (h : ∀ c ∈ commands, '\n' ∉ c.displayChars) :
    listing commands = .ok (displayLines commands) ↔
      ∀ c ∈ commands, IsTransparent c.displayChars := by
  induction commands with
  | nil => exact ⟨fun _ => by simp, fun _ => rfl⟩
  | cons c cs ih =>
    obtain ⟨hc, hcs⟩ := List.forall_mem_cons.mp h
    rw [List.forall_mem_cons, ← appears_iff hc, ← ih hcs, listing_cons_eq_ok_iff]
    constructor
    · rintro ⟨text, rest, hshown, hrest, heq⟩
      obtain ⟨htext, rfl⟩ :=
        ((fades_appearance hshown).append_eq_iff (fades_listing hrest)).mp heq.symm
      exact ⟨⟨text, hshown, htext⟩, hrest⟩
    · rintro ⟨⟨text, hshown, htext⟩, hrest⟩
      exact ⟨text, _, hshown, hrest, by rw [htext, displayLines_cons]⟩

/-! ## Listings of scripts -/

theorem newline_not_mem_of_mem_commands {settings : Settings} {script : String} {c : Command}
    (h : c ∈ Script.commands settings script) : '\n' ∉ c.displayChars := by
  obtain ⟨line, hline, hread⟩ := List.mem_filterMap.mp h
  exact Command.newline_not_mem_displayChars <|
    Script.textual_of_commandOf? (isLine_of_mem_lines _ line hline) hread

/-- A script in whose texts to type nothing means anything to a console. -/
def TypesTransparently (settings : Settings) (script : String) : Prop :=
  ∀ text commit clear, .typeText text commit clear ∈ Script.commands settings script →
    IsTransparent text.toList

/-- The listing of a script shows the display forms of its commands, and nothing else. -/
def ListsDisplays (settings : Settings) (script : String) : Prop :=
  parse settings false script =
    { ending := .exited 0, output := displayLines (Script.commands settings script) }

theorem listsDisplays_iff (settings : Settings) (script : String) :
    ListsDisplays settings script ↔ TypesTransparently settings script := by
  have hlines : ∀ c ∈ Script.commands settings script, '\n' ∉ c.displayChars :=
    fun c hc => newline_not_mem_of_mem_commands hc
  have hparse : ListsDisplays settings script ↔ listing (Script.commands settings script) =
      .ok (displayLines (Script.commands settings script)) := by
    rw [ListsDisplays, parse, if_neg Bool.false_ne_true]
    cases listing (Script.commands settings script) <;> simp
  rw [hparse, listing_eq_iff hlines]
  constructor
  · intro h text commit clear hmem
    exact (Command.isTransparent_typeText text commit clear).mp (h _ hmem)
  · intro h c hc
    refine c.isTransparent_displayChars.mpr fun text commit clear heq => ?_
    exact h text commit clear (heq ▸ hc)

theorem map_displayChars_of_displayLines {settings settings' : Settings} {script script' : String}
    (h : displayLines (Script.commands settings script) =
      displayLines (Script.commands settings' script')) :
    (Script.commands settings script).map Command.displayChars =
      (Script.commands settings' script').map Command.displayChars := by
  have hsplit := congrArg (splitOn '\n') h
  rw [splitOn_displayLines fun c hc => newline_not_mem_of_mem_commands hc,
    splitOn_displayLines fun c hc => newline_not_mem_of_mem_commands hc] at hsplit
  exact List.append_cancel_right hsplit

/-- A listing shows the display forms of the commands, line by line, just when nothing in the
texts to type means anything to the console. Two scripts with such texts have the same listing
only if their commands have the same display forms. -/
theorem listing_shows_displays (settings : Settings) (script : String) :
    (ListsDisplays settings script ↔ TypesTransparently settings script) ∧
      ∀ settings' script', TypesTransparently settings script →
        TypesTransparently settings' script' →
          ((parse settings false script).output = (parse settings' false script').output ↔
            (Script.commands settings script).map Command.displayChars =
              (Script.commands settings' script').map Command.displayChars) := by
  refine ⟨listsDisplays_iff settings script, fun settings' script' h h' => ?_⟩
  have hlists : ListsDisplays settings script := (listsDisplays_iff _ _).mpr h
  have hlists' : ListsDisplays settings' script' := (listsDisplays_iff _ _).mpr h'
  rw [hlists, hlists']
  exact ⟨map_displayChars_of_displayLines, congrArg (List.flatMap (· ++ ['\n']))⟩

/-- A number in brackets is no tag, and a time is no code. -/
theorem listing_of_times :
    let script := "input [1] at 10:30\nback"
    TypesTransparently .default script ∧
      (parse .default false script).output = "Input: \"[1] at 10:30\"\nPress Back\n".toList := by
  intro script
  have hcommands : Script.commands .default script =
      [.typeText "[1] at 10:30" false false, .press .back] := by decide +kernel
  have htransparent : TypesTransparently .default script := by
    intro text commit clear hmem
    rw [hcommands] at hmem
    have htext : text = "[1] at 10:30" := by simp_all
    rw [htext]
    decide +kernel
  have hlists : ListsDisplays .default script :=
    (listing_shows_displays .default script).1.mpr htransparent
  refine ⟨htransparent, ?_⟩
  rw [hlists, hcommands]
  decide +kernel

/-- A text with a backslash before a bracket is not listed as it is, but like the text without
the backslash. -/
theorem listings_of_backslash :
    (¬ ∀ script, (parse .default false script).ending = .exited 0 →
      ListsDisplays .default script) ∧
    ¬ ∀ script script', (parse .default false script).ending = .exited 0 →
      (parse .default false script).output = (parse .default false script').output →
        (Script.commands .default script).map Command.displayChars =
          (Script.commands .default script').map Command.displayChars := by
  have hending : (parse .default false "input \\[1]").ending = .exited 0 := by decide +kernel
  have hcommands : Script.commands .default "input \\[1]" =
      [.typeText "\\[1]" false false] := by decide +kernel
  refine ⟨fun h => ?_, fun h => ?_⟩
  · have htransparent := (listsDisplays_iff _ _).mp (h _ hending) "\\[1]" false false
      (by simp [hcommands])
    exact htransparent.unescaped ⟨[], "1]".toList, by decide⟩
  · have houtput : (parse .default false "input \\[1]").output =
        (parse .default false "input [1]").output := by decide +kernel
    have hdisplays : (Script.commands .default "input \\[1]").map Command.displayChars ≠
        (Script.commands .default "input [1]").map Command.displayChars := by decide +kernel
    exact hdisplays (h _ _ hending houtput)

end Console.Session

end GestureScript
