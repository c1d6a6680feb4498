import GestureScript.Console.Markup

/-!
# Texts without tags

A text without an opening bracket holds no tag, and a text that was made plain holds none
either, whatever comes before it and even with the end of a style behind it. A text is shown
when each of its tags ends a style that was begun.
-/

set_option autoImplicit false

namespace GestureScript.Console

open Text

/-! ## Names of colors -/

theorem isColor_hex {ds : List Char} (hlength : ds.length = 6) (hhex : ds.all isHex = true) :
    isColor ('#' :: ds) = .ok true := by
  have hargument : argument? "rgb(".toList ('#' :: ds) = none := rfl
  rw [isColor, hargument]
  simp [hlength, hhex]

theorem Style.readWords_of_color {s : Style} {w : List Char} {ws : List (List Char)}
    (hplain : lower w ∉ ["on".toList, "not".toList, "link".toList])
    (hattribute : attribute? (lower w) = none) (hcolor : isColor (lower w) = .ok true) :
    readWords s (w :: ws) = readWords { s with color := some (lower w) } ws := by
  simp only [List.mem_cons, List.not_mem_nil, or_false, not_or] at hplain
  obtain ⟨hon, hnot, hlink⟩ := hplain
  rw [readWords.eq_def]
  simp only [if_neg hon, if_neg hnot, if_neg hlink, hattribute, hcolor]

namespace Markup

/-! ## Tags in a text -/

/-- A text without brackets. -/
def IsBare (cs : List Char) : Prop := ∀ c ∈ cs, c ≠ '[' ∧ c ≠ ']'

instance : DecidablePred IsBare := fun cs =>
  decidable_of_iff (cs.all fun c => c != '[' && c != ']') <| by simp [IsBare]

/-- A text with nothing that starts a tag or makes one plain. -/
def IsLiteral (cs : List Char) : Prop := ∀ c ∈ cs, c ≠ '[' ∧ c ≠ '\\'

instance : DecidablePred IsLiteral := fun cs =>
  decidable_of_iff (cs.all fun c => c != '[' && c != '\\') <| by simp [IsLiteral]

/-- What can stand between the brackets of a tag. -/
structure IsBody (body : List Char) : Prop where
  starts : ∃ c cs, body = c :: cs ∧ startsTag c = true
  bare : IsBare body

/-- A tag with backslashes before it. -/
def tagText (backslashes : Nat) (body : List Char) : List Char :=
  List.replicate backslashes '\\' ++ '[' :: body ++ [']']

theorem length_tagText (n : Nat) (body : List Char) :
    (tagText n body).length = n + body.length + 2 := by
  simp [tagText]
  omega

theorem not_bracket_of_startsTag {c : Char} (h : startsTag c = true) : c ≠ '[' ∧ c ≠ ']' := by
  constructor <;> rintro rfl <;> exact absurd h (by decide)

theorem upToBracket_cons {c : Char} (h : c ≠ '[' ∧ c ≠ ']') (cs : List Char) :
    upToBracket (c :: cs) = (upToBracket cs).map (c :: ·) := by
  rw [upToBracket]
  · exact fun e => h.2 e
  · exact fun e => h.1 e

theorem upToBracket_append {cs : List Char} (h : IsBare cs) (rest : List Char) :
    upToBracket (cs ++ rest) = (upToBracket rest).map (cs ++ ·) := by
  induction cs with
  | nil => simp
  | cons c cs ih =>
    obtain ⟨hc, hcs⟩ := List.forall_mem_cons.mp h
    rw [List.cons_append, upToBracket_cons hc, ih hcs, Option.map_map]
    rfl

theorem exists_of_upToBracket {cs body : List Char} (h : upToBracket cs = some body) :
    IsBare body ∧ ∃ rest, cs = body ++ ']' :: rest := by
  fun_induction upToBracket cs generalizing body with
  | case1 => cases h
  | case2 rest =>
    cases h
    exact ⟨by simp [IsBare], rest, rfl⟩
  | case3 => cases h
  | case4 c cs hclose hopen ih =>
    obtain ⟨inner, hinner, rfl⟩ := Option.map_eq_some_iff.mp h
    obtain ⟨hplain, rest, rfl⟩ := ih hinner
    exact ⟨List.forall_mem_cons.mpr ⟨⟨hopen, hclose⟩, hplain⟩, rest, rfl⟩

theorem body?_eq_some_iff {cs body : List Char} :
    body? cs = some body ↔ IsBody body ∧ ∃ rest, cs = body ++ ']' :: rest := by
  constructor
  · intro h
    cases cs with
    | nil => cases h
    | cons c cs =>
      rw [body?] at h
      split at h
      next hstarts =>
        obtain ⟨inner, hinner, rfl⟩ := Option.map_eq_some_iff.mp h
        obtain ⟨hplain, rest, rfl⟩ := exists_of_upToBracket hinner
        have hbare : IsBare (c :: inner) :=
          List.forall_mem_cons.mpr ⟨not_bracket_of_startsTag hstarts, hplain⟩
        exact ⟨⟨⟨c, inner, rfl, hstarts⟩, hbare⟩, rest, rfl⟩
      · cases h
  · rintro ⟨⟨⟨c, inner, rfl, hstarts⟩, hplain⟩, rest, rfl⟩
    have hinner := (List.forall_mem_cons.mp hplain).2
    rw [List.cons_append, body?, if_pos hstarts, upToBracket_append hinner]
    simp [upToBracket]

/-- Without a closing bracket in reach there is nothing that could be in a tag. -/
theorem body?_of_upToBracket {cs : List Char} (h : upToBracket cs = none) : body? cs = none := by
  rw [Option.eq_none_iff_forall_ne_some]
  intro body hbody
  obtain ⟨⟨-, hplain⟩, rest, rfl⟩ := body?_eq_some_iff.mp hbody
  simp [upToBracket_append hplain, upToBracket] at h

/-! ## Where tags start -/

theorem tagAt?_backslash (cs : List Char) :
    tagAt? ('\\' :: cs) = (tagAt? cs).map fun (n, body) => (n + 1, body) := by
  have hdrop : ('\\' :: cs).dropWhile (· == '\\') = cs.dropWhile (· == '\\') := by simp
  have htake : ('\\' :: cs).takeWhile (· == '\\') = '\\' :: cs.takeWhile (· == '\\') := by simp
  rw [tagAt?, tagAt?, hdrop, htake]
  split
  · rw [Option.map_map]
    rfl
  · rfl

theorem tagAt?_bracket (cs : List Char) : tagAt? ('[' :: cs) = (body? cs).map (0, ·) := by
  simp [tagAt?]

theorem tagAt?_other {c : Char} (hopen : c ≠ '[') (hslash : c ≠ '\\') (cs : List Char) :
    tagAt? (c :: cs) = none := by
  simp [tagAt?, hopen, hslash]

theorem tagAt?_tagText {body : List Char} (h : IsBody body) (n : Nat) (rest : List Char) :
    tagAt? (tagText n body ++ rest) = some (n, body) := by
  induction n with
  | zero =>
    have hbody : body? (body ++ ']' :: rest) = some body := body?_eq_some_iff.mpr ⟨h, rest, rfl⟩
    simp [tagText, tagAt?_bracket, hbody]
  | succ n ih =>
    have htext : tagText (n + 1) body ++ rest = '\\' :: (tagText n body ++ rest) := rfl
    rw [htext, tagAt?_backslash, ih]
    rfl

theorem exists_of_tagAt? {cs body : List Char} {n : Nat} (h : tagAt? cs = some (n, body)) :
    IsBody body ∧ ∃ rest, cs = tagText n body ++ rest := by
  induction cs generalizing n with
  | nil => cases h
  | cons c cs ih =>
    by_cases hslash : c = '\\'
    · subst hslash
      rw [tagAt?_backslash] at h
      obtain ⟨⟨m, inner⟩, hm, heq⟩ := Option.map_eq_some_iff.mp h
      cases heq
      obtain ⟨hbody, rest, rfl⟩ := ih hm
      exact ⟨hbody, rest, rfl⟩
    · by_cases hopen : c = '['
      · subst hopen
        rw [tagAt?_bracket] at h
        obtain ⟨inner, hinner, heq⟩ := Option.map_eq_some_iff.mp h
        cases heq
        obtain ⟨hbody, rest, rfl⟩ := body?_eq_some_iff.mp hinner
        exact ⟨hbody, rest, by simp [tagText]⟩
      · rw [tagAt?_other hopen hslash] at h
        cases h

theorem tagAt?_of_no_bracket {cs : List Char} (h : '[' ∉ cs) : tagAt? cs = none := by
  rw [Option.eq_none_iff_forall_ne_some]
  rintro ⟨n, body⟩ htag
  obtain ⟨-, rest, hrest⟩ := exists_of_tagAt? htag
  exact h (by simp [hrest, tagText])

/-- The first character of a tag, which may be a backslash, and those that are skipped. -/
theorem exists_cons_tagText {body : List Char} (h : IsBody body) (n : Nat) (cs : List Char) :
    ∃ c inner, tagText n body = c :: inner ∧ inner.length = n + body.length + 1 ∧
      tagAt? (c :: (inner ++ cs)) = some (n, body) := by
  have hlength := length_tagText n body
  have htag := tagAt?_tagText h n cs
  cases htext : tagText n body with
  | nil => simp [htext] at hlength
  | cons c inner =>
    rw [htext] at hlength htag
    exact ⟨c, inner, rfl, by simpa using hlength, htag⟩

/-! ## Pieces of a text -/

/-- The tags among some pieces. -/
def tags (ps : List Piece) : List Tag :=
  ps.filterMap fun
    | .plain _ => none
    | .tag _ t => some t

@[simp] theorem tags_append (ps qs : List Piece) : tags (ps ++ qs) = tags ps ++ tags qs :=
  List.filterMap_append

@[simp] theorem tags_gathered (cs : List Char) : tags (gathered cs) = [] := by
  unfold gathered
  split <;> rfl

theorem tags_piecesOfTag (position n : Nat) (body : List Char) :
    tags (piecesOfTag position n body) = if n % 2 = 1 then [] else [.ofBody body] := by
  unfold piecesOfTag
  split <;> split <;> rfl

theorem cut_skip (position : Nat) (before xs cs : List Char) :
    cut position xs.length before (xs ++ cs) = cut (position + xs.length) 0 before cs := by
  induction xs generalizing position with
  | nil => rfl
  | cons x xs ih =>
    rw [List.cons_append, List.length_cons, cut, ih, Nat.add_right_comm, Nat.add_assoc]

theorem cut_of_no_tag {c : Char} {cs : List Char} (h : tagAt? (c :: cs) = none)
    (position : Nat) (before : List Char) :
    cut position 0 before (c :: cs) = cut (position + 1) 0 (c :: before) cs := by
  rw [cut]
  simp only [h]

/-- A literal text is only gathered. -/
theorem cut_append {xs : List Char} (h : IsLiteral xs) (position : Nat)
    (before cs : List Char) : cut position 0 before (xs ++ cs) =
      cut (position + xs.length) 0 (xs.reverse ++ before) cs := by
  induction xs generalizing position before with
  | nil => rfl
  | cons x xs ih =>
    obtain ⟨hx, hxs⟩ := List.forall_mem_cons.mp h
    rw [List.cons_append, cut_of_no_tag (tagAt?_other hx.1 hx.2 _), ih hxs, List.length_cons,
      List.reverse_cons, List.append_assoc, Nat.add_right_comm, Nat.add_assoc]
    rfl

theorem cut_tagText {body : List Char} (h : IsBody body) (position n : Nat)
    (before cs : List Char) :
    cut position 0 before (tagText n body ++ cs) =
      gathered before ++ piecesOfTag position n body ++
        cut (position + (n + body.length + 2)) 0 [] cs := by
  obtain ⟨c, inner, htext, hlength, htag⟩ := exists_cons_tagText h n cs
  rw [htext, List.cons_append, cut]
  simp only [htag]
  rw [← hlength, cut_skip]
  congr 2
  omega

/-! ## Texts made plain -/

theorem escapeFrom_skip (xs cs : List Char) :
    escapeFrom xs.length (xs ++ cs) = xs ++ escapeFrom 0 cs := by
  induction xs with
  | nil => rfl
  | cons x xs ih => rw [List.cons_append, List.length_cons, escapeFrom, ih, List.cons_append]

theorem escapeFrom_of_no_tag {c : Char} {cs : List Char} (h : tagAt? (c :: cs) = none) :
    escapeFrom 0 (c :: cs) = c :: escapeFrom 0 cs := by
  rw [escapeFrom]
  simp only [h]

theorem escapeFrom_append {xs : List Char} (h : IsLiteral xs) (cs : List Char) :
    escapeFrom 0 (xs ++ cs) = xs ++ escapeFrom 0 cs := by
  induction xs with
  | nil => rfl
  | cons x xs ih =>
    obtain ⟨hx, hxs⟩ := List.forall_mem_cons.mp h
    rw [List.cons_append, escapeFrom_of_no_tag (tagAt?_other hx.1 hx.2 _), ih hxs,
      List.cons_append]

theorem escapeFrom_of_no_bracket {cs : List Char} (h : '[' ∉ cs) : escapeFrom 0 cs = cs := by
  induction cs with
  | nil => rfl
  | cons c cs ih =>
    rw [escapeFrom_of_no_tag (tagAt?_of_no_bracket h), ih fun hc => h (List.mem_cons_of_mem c hc)]

/-- The backslashes of a tag are doubled, and one more makes it plain. -/
theorem escapeFrom_tagText {body : List Char} (h : IsBody body) (n : Nat) (cs : List Char) :
    escapeFrom 0 (tagText n body ++ cs) = tagText (n + 1 + n) body ++ escapeFrom 0 cs := by
  obtain ⟨c, inner, htext, hlength, htag⟩ := exists_cons_tagText h n cs
  have hslashes : tagText (n + 1 + n) body =
      List.replicate (n + 1) '\\' ++ tagText n body := by
    simp [tagText, ← List.replicate_append_replicate]
  rw [hslashes, htext, List.cons_append, escapeFrom]
  simp only [htag]
  rw [← hlength, escapeFrom_skip]
  simp

theorem upToBracket_tagText (n : Nat) (body rest : List Char) :
    upToBracket (tagText n body ++ rest) = none := by
  have hslashes : IsBare (List.replicate n '\\') := by
    intro c hc
    rw [List.eq_of_mem_replicate hc]
    decide
  rw [tagText, List.append_assoc, List.append_assoc, upToBracket_append hslashes]
  rfl

/-- A bracket that is not closed stays so. -/
theorem upToBracket_escapeFrom {cs tail : List Char} (h : upToBracket cs = none)
    (htail : upToBracket tail = none) : upToBracket (escapeFrom 0 cs ++ tail) = none := by
  induction cs with
  | nil => exact htail
  | cons c cs ih =>
    cases htag : tagAt? (c :: cs) with
    | some found =>
      obtain ⟨n, body⟩ := found
      obtain ⟨hbody, rest, hrest⟩ := exists_of_tagAt? htag
      rw [hrest, escapeFrom_tagText hbody, List.append_assoc]
      exact upToBracket_tagText _ _ _
    | none =>
      rw [escapeFrom_of_no_tag htag, List.cons_append]
      by_cases hopen : c = '['
      · rw [hopen]
        rfl
      · by_cases hclose : c = ']'
        · rw [hclose] at h
          cases h
        · rw [upToBracket_cons ⟨hopen, hclose⟩] at h ⊢
          rw [ih (Option.map_eq_none_iff.mp h)]
          rfl

theorem body?_escapeFrom {cs tail : List Char} (h : body? cs = none)
    (htail : upToBracket tail = none) : body? (escapeFrom 0 cs ++ tail) = none := by
  cases cs with
  | nil => exact body?_of_upToBracket htail
  | cons c cs =>
    cases htag : tagAt? (c :: cs) with
    | some found =>
      obtain ⟨n, body⟩ := found
      obtain ⟨hbody, rest, hrest⟩ := exists_of_tagAt? htag
      rw [hrest, escapeFrom_tagText hbody, List.append_assoc]
      exact body?_of_upToBracket (upToBracket_tagText _ _ _)
    | none =>
      rw [escapeFrom_of_no_tag htag, List.cons_append, body?]
      split
      next hstarts =>
        rw [body?, if_pos hstarts, Option.map_eq_none_iff] at h
        rw [upToBracket_escapeFrom h htail]
        rfl
      · rfl

/-- No tag comes up where there was none, unless it begins behind the text. -/
theorem tagAt?_escapeFrom {cs tail : List Char} (h : tagAt? cs = none)
    (htail : upToBracket tail = none) (hother : ∃ c ∈ cs, c ≠ '\\') :
    tagAt? (escapeFrom 0 cs ++ tail) = none := by
  induction cs with
  | nil => simp at hother
  | cons c cs ih =>
    rw [escapeFrom_of_no_tag h, List.cons_append]
    by_cases hslash : c = '\\'
    · subst hslash
      rw [tagAt?_backslash, Option.map_eq_none_iff] at h ⊢
      obtain ⟨d, hd, hne⟩ := hother
      exact ih h ⟨d, (List.mem_cons.mp hd).resolve_left hne, hne⟩
    · by_cases hopen : c = '['
      · subst hopen
        rw [tagAt?_bracket, Option.map_eq_none_iff] at h ⊢
        exact body?_escapeFrom h htail
      · exact tagAt?_other hopen hslash _

/-- The end of the latest style. -/
def endTag : Tag := .ofBody ['/']

/-- A text that was made plain has no tags, whatever was gathered before it. Of an end that
follows a text only that end is left, if the text leaves it one. -/
theorem tags_cut_escapeFrom (cs : List Char) (n position : Nat) (before : List Char) :
    (tags (cut position 0 before (escapeFrom 0 cs ++ tagText n ['/']))).Sublist [endTag] := by
  have hend : IsBody ['/'] := ⟨⟨'/', [], rfl, rfl⟩, by decide⟩
  by_cases hother : ∃ c ∈ cs, c ≠ '\\'
  · cases htag : tagAt? cs with
    | some found =>
      obtain ⟨m, body⟩ := found
      obtain ⟨hbody, rest, hrest⟩ := exists_of_tagAt? htag
      have hodd : (m + 1 + m) % 2 = 1 := by omega
      have hshorter : rest.length < cs.length := by simp [hrest, length_tagText]
      rw [hrest, escapeFrom_tagText hbody, List.append_assoc, cut_tagText hbody]
      simp only [tags_append, tags_gathered, tags_piecesOfTag, if_pos hodd, List.nil_append]
      exact tags_cut_escapeFrom rest n _ _
    | none =>
      cases cs with
      | nil => simp at hother
      | cons c cs =>
        have hno := tagAt?_escapeFrom htag (upToBracket_tagText n ['/'] []) hother
        rw [List.append_nil, escapeFrom_of_no_tag htag, List.cons_append] at hno
        rw [escapeFrom_of_no_tag htag, List.cons_append, cut_of_no_tag hno]
        exact tags_cut_escapeFrom cs n _ _
  · -- Backslashes alone belong to the end that follows.
    have hslashes : ∀ c ∈ cs, c = '\\' := by simpa using hother
    have hbracket : '[' ∉ cs := fun hc => hother ⟨'[', hc, by decide⟩
    have htext : cs ++ tagText n ['/'] = tagText (cs.length + n) ['/'] ++ [] := by
      rw [List.eq_replicate_of_mem hslashes]
      simp [tagText, ← List.replicate_append_replicate]
    rw [escapeFrom_of_no_bracket hbracket, htext, cut_tagText hend]
    simp only [tags_append, tags_gathered, tags_piecesOfTag, List.nil_append]
    split
    · exact List.nil_sublist _
    · exact List.Sublist.refl _
termination_by cs.length

/-! ## Rendering -/

namespace Rendering

variable {r : Rendering} {name : List Char}

/-- All styles of what was rendered have one name, which is no handler's. -/
structure Uses (r : Rendering) (name : List Char) : Prop where
  opened : ∀ o ∈ r.opened, o.isHandler = false ∧ o.styleName = name
  spans : ∀ s ∈ r.spans, s.style = name

theorem uses_empty (name : List Char) : ({} : Rendering).Uses name :=
  ⟨by simp, by simp⟩

theorem Uses.finish (h : r.Uses name) {o : Opened} (ho : o.styleName = name) :
    (r.finish o).Uses name :=
  ⟨h.opened, List.forall_mem_cons.mpr ⟨ho, h.spans⟩⟩

theorem Uses.applyTag_endTag (h : r.Uses name) {o : Opened} {rest : List Opened}
    (hopened : r.opened = o :: rest) (position : Nat) :
    ∃ r', r.applyTag position endTag = .ok r' ∧ r'.Uses name ∧ r'.opened = rest := by
  have ho := h.opened
  rw [hopened] at ho
  obtain ⟨⟨hhandler, hname⟩, hrest⟩ := List.forall_mem_cons.mp ho
  have hclose : r.applyTag position endTag = r.close o rest := by
    have htrim : trim [] = [] := rfl
    simp [applyTag, endTag, Tag.ofBody, htrim, hopened]
  have hcheck : o.check = .ok () := by
    rw [Opened.check, hhandler]
  have huses : Uses { r with opened := rest } name := ⟨hrest, h.spans⟩
  refine ⟨Rendering.finish { r with opened := rest } o, ?_, huses.finish hname, rfl⟩
  rw [hclose, Rendering.close, hcheck, hhandler]
  rfl

theorem foldlM_add_cons {r' : Rendering} {p : Piece} (h : r.add p = .ok r') (ps : List Piece) :
    (p :: ps).foldlM (fun r p => r.add p) r = ps.foldlM (fun r p => r.add p) r' := by
  rw [List.foldlM_cons, h]
  rfl

/-- Pieces are rendered if each tag ends a style, and there are styles enough to end. -/
theorem Uses.foldlM_add {ps : List Piece} (h : r.Uses name) (hends : ∀ t ∈ tags ps, t = endTag)
    (hcount : (tags ps).length ≤ r.opened.length) :
    ∃ r', ps.foldlM (fun r p => r.add p) r = .ok r' ∧ r'.Uses name := by
  induction ps generalizing r with
  | nil => exact ⟨r, rfl, h⟩
  | cons p ps ih =>
    cases p with
    | plain cs =>
      have hwritten : (r.write (Layout.visible (Emoji.replaceCodes cs))).Uses name :=
        ⟨h.opened, h.spans⟩
      rw [foldlM_add_cons rfl]
      exact ih hwritten hends hcount
    | tag position t =>
      have htags : tags (.tag position t :: ps) = t :: tags ps := rfl
      rw [htags] at hends hcount
      obtain ⟨rfl, hlater⟩ := List.forall_mem_cons.mp hends
      cases hopened : r.opened with
      | nil => simp [hopened] at hcount
      | cons o rest =>
        obtain ⟨r', hclosed, huses, hrest⟩ := h.applyTag_endTag hopened position
        have hcount : (tags ps).length ≤ r'.opened.length := by
          rw [hopened] at hcount
          rw [hrest]
          exact Nat.le_of_succ_le_succ hcount
        have hadded : r.add (.tag position endTag) = .ok r' := hclosed
        rw [foldlM_add_cons hadded]
        exact ih huses hlater hcount

theorem Uses.foldl_finish {os : List Opened} (h : r.Uses name)
    (hnames : ∀ o ∈ os, o.styleName = name) : (os.foldl Rendering.finish r).Uses name := by
  induction os generalizing r with
  | nil => exact h
  | cons o os ih =>
    obtain ⟨ho, hos⟩ := List.forall_mem_cons.mp hnames
    exact ih (h.finish ho) hos

theorem Uses.orderedSpans (h : r.Uses name) : ∀ s ∈ r.orderedSpans, s.style = name := by
  have hspans := (h.foldl_finish fun o ho => (h.opened o ho).2).spans
  intro s hs
  unfold Rendering.orderedSpans at hs
  dsimp only at hs
  split at hs
  · exact hspans s (List.mem_mergeSort.mp (List.mem_filter.mp hs).1)
  · exact hspans s (List.mem_mergeSort.mp hs)

theorem checkStyles_ok {spans : List Span}
    (h : ∀ s ∈ spans, ∃ style, Style.read s.style = .ok style) : checkStyles spans = .ok () := by
  induction spans with
  | nil => rfl
  | cons s ss ih =>
    obtain ⟨⟨style, hstyle⟩, hss⟩ := List.forall_mem_cons.mp h
    rw [checkStyles, hstyle]
    exact ih hss

/-- What uses a style that can be read is shown. -/
theorem Uses.shown (h : r.Uses name) {cs : List Char} (hrender : render cs = .ok r)
    {style : Option Style} (hstyle : Style.read name = .ok style) :
    Markup.shown cs = .ok r.text := by
  have hchecked : checkStyles r.orderedSpans = .ok () :=
    checkStyles_ok fun s hs => ⟨style, by rw [h.orderedSpans s hs, hstyle]⟩
  rw [Markup.shown, hrender]
  change ((checkStyles r.orderedSpans).mapError MarkupFault.color).bind (fun _ => .ok r.text) = _
  rw [hchecked]
  rfl

end Rendering

/-- A text is shown if there are no tags among its pieces. -/
theorem exists_shown_of_no_tags {cs : List Char} (h : tags (pieces cs) = []) :
    ∃ text, shown cs = .ok text := by
  have hends : ∀ t ∈ tags (pieces cs), t = endTag := by simp [h]
  obtain ⟨r, hrender, huses⟩ := (Rendering.uses_empty []).foldlM_add hends (by simp [h])
  exact ⟨r.text, huses.shown hrender rfl⟩

end Markup

end GestureScript.Console
