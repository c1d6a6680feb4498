import GestureScript.Command.Display
import GestureScript.Proofs.Console.Markup
import GestureScript.Proofs.Numeral
import Mathlib.Data.List.Infix

/-!
# Signs

The characters that a console may take for something else. On its way from a marked-up text to
the lines in which it appears a text goes through several steps. Each of them leaves the text as
it is, or takes signs away from it, and none brings new ones. So what appears is the text itself
just when no step has changed anything.
-/

set_option autoImplicit false

namespace GestureScript

namespace Console

/-! ## Signs of a text -/

def isSign (c : Char) : Bool :=
  c == '[' || c == '\\' || c == ':' || c == '\t' || c == '\n' || Layout.isDropped c

def signs (cs : List Char) : Nat := cs.countP isSign

@[simp] theorem signs_nil : signs [] = 0 := rfl

@[simp] theorem signs_append (cs ds : List Char) : signs (cs ++ ds) = signs cs + signs ds :=
  List.countP_append

theorem signs_cons (c : Char) (cs : List Char) : signs (c :: cs) = signs [c] + signs cs :=
  signs_append [c] cs

theorem signs_append_of_none {cs ds : List Char} (h : signs cs = 0) (h' : signs ds = 0) :
    signs (cs ++ ds) = 0 := by
  rw [signs_append, h, h']

/-- What is left of a text is the text itself, or has fewer signs. -/
def Fades (cs left : List Char) : Prop := left = cs ∨ signs left < signs cs

namespace Fades

variable {cs left ds right : List Char}

theorem refl (cs : List Char) : Fades cs cs := .inl rfl

theorem signs_le (h : Fades cs left) : signs left ≤ signs cs := by
  rcases h with rfl | hlt
  · exact Nat.le_refl _
  · exact Nat.le_of_lt hlt

theorem trans (h : Fades cs ds) (h' : Fades ds left) : Fades cs left := by
  rcases h' with rfl | hlt
  · exact h
  · exact .inr (Nat.lt_of_lt_of_le hlt h.signs_le)

theorem append (h : Fades cs left) (h' : Fades ds right) : Fades (cs ++ ds) (left ++ right) := by
  have hle := h.signs_le
  have hle' := h'.signs_le
  rcases h with rfl | hlt
  · rcases h' with rfl | hlt'
    · exact .refl _
    · exact .inr (by simpa using hlt')
  · refine .inr ?_
    rw [signs_append, signs_append]
    omega

/-- A text without signs is left as it is. -/
theorem eq_of_signs (h : Fades cs left) (hnone : signs cs = 0) : left = cs :=
  h.resolve_right (by omega)

/-- What comes back in the end was never changed. -/
theorem eq_of_trans (h : Fades cs ds) (h' : Fades ds cs) : ds = cs :=
  h.resolve_right (Nat.not_lt.mpr h'.signs_le)

theorem append_eq_iff (h : Fades cs left) (h' : Fades ds right) :
    left ++ right = cs ++ ds ↔ left = cs ∧ right = ds := by
  constructor
  · intro heq
    have hsigns : signs left + signs right = signs cs + signs ds := by
      rw [← signs_append, heq, signs_append]
    have hle := h.signs_le
    have hle' := h'.signs_le
    exact ⟨h.resolve_right (by omega), h'.resolve_right (by omega)⟩
  · rintro ⟨rfl, rfl⟩
    rfl

end Fades

/-- Integers are written with digits, and with a minus sign if they are negative. -/
theorem signs_written (n : Int) : signs (Numeral.written n) = 0 := by
  have hdigits : ∀ m, signs (Nat.toDigits 10 m) = 0 := by
    intro m
    refine List.countP_eq_zero.mpr fun c hc => ?_
    obtain ⟨hlow, hhigh⟩ := (Numeral.isDigits_toDigits m).2 c hc
    have hlow' : 48 ≤ c.toNat := hlow
    have hhigh' : c.toNat ≤ 57 := hhigh
    have hother : ∀ d, (d.toNat < 48 ∨ 57 < d.toNat) → c ≠ d := by
      rintro d hd rfl
      omega
    simp [isSign, Layout.isDropped, hother '[' (by decide), hother '\\' (by decide),
      hother ':' (by decide), hother '\t' (by decide), hother '\n' (by decide)]
    omega
  cases n with
  | ofNat m => exact hdigits m
  | negSucc m =>
    have hminus : signs ['-'] = 0 := by decide
    rw [Numeral.written, signs_cons, hminus, hdigits]

end Console

/-! ## Commands without signs -/

open Console

theorem Point.signs_display (p : Point) : signs p.display = 0 := by
  have hstart : signs ['('] = 0 := by decide
  have hbetween : signs ", ".toList = 0 := by decide +kernel
  have hend : signs [')'] = 0 := by decide
  have hx := signs_append_of_none hstart (signs_written p.x)
  exact signs_append_of_none (signs_append_of_none (signs_append_of_none hx hbetween)
    (signs_written p.y)) hend

theorem Point.signs_displayAll (ps : List Point) : signs (displayAll ps) = 0 := by
  have hbetween : signs ", ".toList = 0 := by decide +kernel
  fun_induction displayAll ps with
  | case1 => rfl
  | case2 p => exact p.signs_display
  | case3 p ps hps ih =>
    exact signs_append_of_none (signs_append_of_none p.signs_display hbetween) ih

/-- Only a text to type brings signs into a listing. -/
theorem Command.signs_displayChars {c : Command}
    (h : ∀ text commit clear, c ≠ .typeText text commit clear) : signs c.displayChars = 0 := by
  cases c with
  | tap points duration =>
    have hword : signs "Tap at ".toList = 0 := by decide +kernel
    exact signs_append_of_none hword (Point.signs_displayAll points)
  | swipe start finish duration =>
    have hfrom : signs "Swipe from ".toList = 0 := by decide +kernel
    have hto : signs " to ".toList = 0 := by decide +kernel
    exact signs_append_of_none (signs_append_of_none (signs_append_of_none hfrom
      start.signs_display) hto) finish.signs_display
  | scroll direction duration =>
    have hword : signs "Scroll ".toList = 0 := by decide +kernel
    have hlabel : signs direction.label.toList = 0 := by cases direction <;> decide +kernel
    exact signs_append_of_none hword hlabel
  | typeText text commit clear => exact absurd rfl (h text commit clear)
  | wait duration =>
    have hword : signs "Wait ".toList = 0 := by decide +kernel
    have hunit : signs "ms".toList = 0 := by decide +kernel
    exact signs_append_of_none (signs_append_of_none hword (signs_written duration)) hunit
  | press button =>
    have hword : signs "Press ".toList = 0 := by decide +kernel
    have hlabel : signs button.label.toList = 0 := by cases button <;> decide +kernel
    exact signs_append_of_none hword hlabel

namespace Console

open Markup Text

/-! ## Emoji -/

namespace Emoji

theorem signs_of_mem_names : ∀ e ∈ names, signs e.2 = 0 := by
  have hall : (names.all fun e => signs e.2 == 0) = true := by decide +kernel
  simpa using hall

theorem signs_of_named? {name picture : List Char} (h : named? name = some picture) :
    signs picture = 0 := by
  obtain ⟨before, after, hnames, -⟩ := List.lookup_eq_some_iff.mp h
  have hmem : (String.ofList name, picture) ∈ names := by simp [hnames]
  exact signs_of_mem_names _ hmem

theorem fades_shown (code : List Char) : Fades (':' :: code ++ [':']) (shown code) := by
  unfold shown
  split
  next picture hpicture =>
    have hvariant : signs ((variant? code).map (·.2)).toList = 0 := by
      cases hfound : variant? code with
      | none => rfl
      | some v =>
        have hplain : ∀ v ∈ variants, signs [v.2] = 0 := by decide
        exact hplain v (List.mem_of_find?_eq_some hfound)
    have hcolons : signs (':' :: code ++ [':']) = signs code + 2 := by
      rw [signs_append, signs_cons, Nat.add_comm (signs [':'])]
      rfl
    refine .inr ?_
    rw [signs_append, signs_of_named? hpicture, hvariant, hcolons]
    omega
  · exact .refl _

theorem fades_join (ps : List (List Char)) : Fades ([':'].intercalate ps) (join ps) := by
  fun_induction join ps with
  | case1 => exact .refl _
  | case2 p => simpa using Fades.refl p
  | case3 p q => simpa using Fades.refl (p ++ ':' :: q)
  | case4 p q r rest hblank ih => simpa using (Fades.refl (p ++ [':'])).append ih
  | case5 p q r rest hblank ih =>
    simpa using ((Fades.refl p).append (fades_shown q)).append ih

theorem fades_replaceCodes (cs : List Char) : Fades cs (replaceCodes cs) := by
  have hfades := fades_join (splitOn ':' cs)
  rwa [intercalate_splitOn] at hfades

end Emoji

/-! ## Layout -/

namespace Layout

theorem fades_visible (cs : List Char) : Fades cs (visible cs) := by
  induction cs with
  | nil => exact .refl _
  | cons c cs ih =>
    by_cases hc : isDropped c = true
    · have hdropped : Fades [c] [] := .inr (by simp [signs, isSign, hc])
      have hvisible : visible (c :: cs) = [] ++ visible cs := by simp [visible, hc]
      rw [hvisible]
      exact hdropped.append ih
    · have hvisible : visible (c :: cs) = [c] ++ visible cs := by simp [visible, hc]
      rw [hvisible]
      exact (Fades.refl [c]).append ih

theorem fades_pieces (column : Nat) (ps : List (List Char)) :
    Fades (['\t'].intercalate ps) (pieces column ps) := by
  fun_induction pieces column ps with
  | case1 => exact .refl _
  | case2 column p => simpa using Fades.refl p
  | case3 column p ps hps column' ih =>
    obtain ⟨q, qs, rfl⟩ := List.exists_cons_of_ne_nil hps
    have htab : Fades ['\t'] (' ' :: List.replicate (blanksAt column') ' ') := by
      have hblanks : signs (' ' :: List.replicate (blanksAt column') ' ') = 0 :=
        List.countP_eq_zero.mpr <| List.forall_mem_cons.mpr ⟨by decide, fun c hc => by
          rw [List.eq_of_mem_replicate hc]
          decide⟩
      have hsign : signs ['\t'] = 1 := by decide
      exact .inr (by omega)
    simpa using ((Fades.refl p).append htab).append ih

theorem fades_line (cs : List Char) : Fades cs (line cs) := by
  have hfades := fades_pieces 0 (splitOn '\t' cs)
  rwa [intercalate_splitOn] at hfades

theorem fades_lines {ls : List (List Char)} (h : ls ≠ []) :
    Fades (['\n'].intercalate ls ++ ['\n']) (ls.flatMap fun l => line l ++ ['\n']) := by
  induction ls with
  | nil => exact absurd rfl h
  | cons l ls ih =>
    have hfirst : Fades (l ++ ['\n']) (line l ++ ['\n']) := (fades_line l).append (.refl _)
    cases ls with
    | nil => simpa using hfirst
    | cons l' ls => simpa using hfirst.append (ih (by simp))

theorem fades_text (cs : List Char) : Fades (cs ++ ['\n']) (text cs) := by
  have hlines := fades_lines (splitOn_ne_nil '\n' (visible cs))
  rw [intercalate_splitOn] at hlines
  exact ((fades_visible cs).append (.refl _)).trans hlines

end Layout

/-! ## Markup -/

namespace Markup

theorem fades_unescape (cs : List Char) : Fades cs (unescape cs) := by
  fun_induction unescape cs with
  | case1 cs ih =>
    have hbracket : Fades ['\\', '['] ['['] := .inr (by decide)
    exact hbracket.append ih
  | case2 c cs _ ih => exact (Fades.refl [c]).append ih
  | case3 => exact .refl _

/-- A text without tags. -/
def IsUntagged (cs : List Char) : Prop := ∀ body, IsBody body → ¬ tagText 0 body <:+: cs

theorem isUntagged_cons {c : Char} {cs : List Char} :
    IsUntagged (c :: cs) ↔ tagAt? (c :: cs) = none ∧ IsUntagged cs := by
  constructor
  · intro h
    refine ⟨?_, fun body hbody hwithin => h body hbody (hwithin.trans (List.infix_cons_iff.mpr ?_))⟩
    · rw [Option.eq_none_iff_forall_ne_some]
      rintro ⟨n, body⟩ htag
      obtain ⟨hbody, rest, hrest⟩ := exists_of_tagAt? htag
      refine h body hbody ⟨List.replicate n '\\', rest, ?_⟩
      rw [hrest]
      simp [tagText]
    · exact .inr (List.infix_refl cs)
  · rintro ⟨hnone, hrest⟩ body hbody hwithin
    rcases List.infix_cons_iff.mp hwithin with ⟨rest, hfront⟩ | hwithin
    · rw [← hfront, tagAt?_tagText hbody] at hnone
      cases hnone
    · exact hrest body hbody hwithin

theorem isUntagged_iff (cs : List Char) :
    IsUntagged cs ↔ ∀ ds ∈ cs.tails, tagAt? ds = none := by
  induction cs with
  | nil =>
    have huntagged : IsUntagged [] := fun body _ hwithin => by simp [tagText] at hwithin
    exact ⟨fun _ ds hds => by simp_all [tagAt?], fun _ => huntagged⟩
  | cons c cs ih => rw [isUntagged_cons, ih, List.tails, List.forall_mem_cons]

instance : DecidablePred IsUntagged := fun cs => decidable_of_iff _ (isUntagged_iff cs).symm

/-- What is left of some pieces without the tags. -/
def plainText (ps : List Piece) : List Char :=
  ps.flatMap fun
    | .plain cs => cs
    | .tag _ _ => []

@[simp] theorem plainText_append (ps qs : List Piece) :
    plainText (ps ++ qs) = plainText ps ++ plainText qs := List.flatMap_append

theorem fades_gathered (before : List Char) :
    Fades before.reverse (plainText (gathered before)) := by
  cases before with
  | nil => exact .refl _
  | cons c before => simpa [gathered, plainText] using fades_unescape (c :: before).reverse

/-- A tag loses its brackets, or the backslash that makes it plain. -/
theorem signs_piecesOfTag (position n : Nat) (body : List Char) :
    signs (plainText (piecesOfTag position n body)) < signs (tagText n body) := by
  have hslashes : ∀ m, signs (List.replicate m '\\') = m := fun m => by
    simp [signs, List.countP_replicate, isSign]
  have hinner : signs ('[' :: body ++ [']']) = 1 + signs body := by
    rw [signs_append, signs_cons]
    rfl
  have htext : signs (tagText n body) = n + (1 + signs body) := by
    rw [tagText, List.append_assoc, signs_append, hslashes, hinner]
  have hhalf : plainText (if n < 2 then [] else [.plain (List.replicate (n / 2) '\\')]) =
      List.replicate (n / 2) '\\' := by
    split
    next hfew => simp [plainText, Nat.div_eq_of_lt hfew]
    · simp [plainText]
  rw [piecesOfTag, plainText_append, signs_append, hhalf, hslashes, htext]
  split
  · have hplain : plainText [.plain ('[' :: body ++ [']'])] = '[' :: body ++ [']'] := by
      simp [plainText]
    rw [hplain, hinner]
    omega
  next heven =>
    have hnone : plainText [.tag (position + n) (.ofBody body)] = [] := rfl
    rw [hnone, signs_nil]
    omega

/-- A text without tags is only gathered, and a text with a tag loses signs. -/
theorem cut_cases (cs : List Char) (position : Nat) (before : List Char) :
    (IsUntagged cs ∧ cut position 0 before cs = gathered (cs.reverse ++ before)) ∨
      (¬ IsUntagged cs ∧
        signs (plainText (cut position 0 before cs)) < signs (before.reverse ++ cs)) := by
  cases cs with
  | nil => exact .inl ⟨fun body _ hwithin => by simp [tagText] at hwithin, rfl⟩
  | cons c cs =>
    rw [isUntagged_cons]
    cases htag : tagAt? (c :: cs) with
    | none =>
      rw [cut_of_no_tag htag]
      rcases cut_cases cs (position + 1) (c :: before) with ⟨huntagged, hcut⟩ | ⟨htagged, hlt⟩
      · exact .inl ⟨⟨rfl, huntagged⟩, by simpa using hcut⟩
      · exact .inr ⟨fun h => htagged h.2, by simpa using hlt⟩
    | some found =>
      obtain ⟨n, body⟩ := found
      obtain ⟨hbody, rest, hrest⟩ := exists_of_tagAt? htag
      have hshorter : rest.length ≤ cs.length := by
        have hlength := congrArg List.length hrest
        simp [length_tagText] at hlength
        omega
      have hlater : ∀ later, signs (plainText (cut later 0 [] rest)) ≤ signs rest := fun later => by
        rcases cut_cases rest later [] with ⟨-, hcut⟩ | ⟨-, hlt⟩
        · rw [hcut, List.append_nil]
          simpa using (fades_gathered rest.reverse).signs_le
        · exact Nat.le_of_lt hlt
      refine .inr ⟨fun h => Option.some_ne_none _ h.1, ?_⟩
      have hbefore := (fades_gathered before).signs_le
      have hinner := signs_piecesOfTag position n body
      have hend := hlater (position + (n + body.length + 2))
      rw [hrest, cut_tagText hbody]
      simp only [plainText_append, signs_append]
      omega
termination_by cs.length

theorem fades_plainText (cs : List Char) : Fades cs (plainText (pieces cs)) := by
  rcases cut_cases cs 0 [] with ⟨-, hcut⟩ | ⟨-, hlt⟩
  · rw [pieces, hcut, List.append_nil]
    simpa using fades_gathered cs.reverse
  · exact .inr hlt

/-- The tags of a text are among what is lost when they are cut out. -/
theorem isUntagged_of_plainText {cs : List Char} (h : plainText (pieces cs) = cs) :
    IsUntagged cs := by
  rcases cut_cases cs 0 [] with ⟨huntagged, -⟩ | ⟨-, hlt⟩
  · exact huntagged
  · rw [← pieces, h] at hlt
    exact absurd hlt (Nat.lt_irrefl _)

theorem isUntagged_of_signs {cs : List Char} (h : signs cs = 0) : IsUntagged cs :=
  isUntagged_of_plainText ((fades_plainText cs).eq_of_signs h)

theorem pieces_of_untagged {cs : List Char} (h : IsUntagged cs) :
    pieces cs = gathered cs.reverse := by
  rcases cut_cases cs 0 [] with ⟨-, hcut⟩ | ⟨htagged, -⟩
  · rwa [List.append_nil] at hcut
  · exact absurd h htagged

/-! ## What is shown -/

/-- A plain piece as it is shown. -/
def shownPlain (cs : List Char) : List Char := Layout.visible (Emoji.replaceCodes cs)

theorem fades_shownPlain (cs : List Char) : Fades cs (shownPlain cs) :=
  (Emoji.fades_replaceCodes cs).trans (Layout.fades_visible _)

theorem replaceCodes_of_shownPlain {cs : List Char} (h : shownPlain cs = cs) :
    Emoji.replaceCodes cs = cs := by
  have hvisible := Layout.fades_visible (Emoji.replaceCodes cs)
  rw [← shownPlain, h] at hvisible
  exact (Emoji.fades_replaceCodes cs).eq_of_trans hvisible

/-- What is shown of some pieces. -/
def shownPieces (ps : List Piece) : List Char :=
  ps.flatMap fun
    | .plain cs => shownPlain cs
    | .tag _ _ => []

theorem fades_shownPieces (ps : List Piece) : Fades (plainText ps) (shownPieces ps) := by
  induction ps with
  | nil => exact .refl _
  | cons p ps ih =>
    cases p with
    | plain cs => exact (fades_shownPlain cs).append ih
    | tag position t => exact ih

theorem shownPieces_gathered (before : List Char) :
    shownPieces (gathered before) = shownPlain (unescape before.reverse) := by
  cases before with
  | nil => rfl
  | cons c before => simp [gathered, shownPieces]

theorem exists_of_bind_eq_ok {ε α β : Type} {x : Except ε α} {f : α → Except ε β} {b : β}
    (h : x >>= f = .ok b) : ∃ a, x = .ok a ∧ f a = .ok b := by
  cases x with
  | error e => cases h
  | ok a => exact ⟨a, rfl, h⟩

namespace Rendering

variable {r r' : Rendering}

theorem texts_close {o : Opened} {rest : List Opened} (h : r.close o rest = .ok r') :
    r'.texts = r.texts := by
  obtain ⟨_, -, hfinished⟩ := exists_of_bind_eq_ok h
  obtain rfl := Except.ok.inj hfinished
  split <;> rfl

/-- A tag says nothing that is shown. -/
theorem texts_applyTag {position : Nat} {t : Tag} (h : r.applyTag position t = .ok r') :
    r'.texts = r.texts := by
  unfold applyTag at h
  split at h
  · split at h
    · split at h
      · cases h
      · exact texts_close h
    · obtain ⟨_, -, hclosed⟩ := exists_of_bind_eq_ok h
      split at hclosed
      · cases hclosed
      · exact texts_close hclosed
  · obtain ⟨_, -, hopened⟩ := exists_of_bind_eq_ok h
    obtain rfl := Except.ok.inj hopened
    rfl

theorem text_foldlM_add {ps : List Piece} (h : ps.foldlM (fun r p => r.add p) r = .ok r') :
    r'.text = r.text ++ shownPieces ps := by
  induction ps generalizing r with
  | nil =>
    obtain rfl := Except.ok.inj h
    simp [shownPieces]
  | cons p ps ih =>
    obtain ⟨added, hadd, hrest⟩ := exists_of_bind_eq_ok h
    have hadded : added.text = r.text ++ shownPieces [p] := by
      cases p with
      | plain cs =>
        obtain rfl := Except.ok.inj hadd
        simp [text, write, shownPieces, shownPlain]
      | tag position t => simp [text, texts_applyTag hadd, shownPieces]
    rw [ih hrest, hadded, List.append_assoc]
    simp [shownPieces]

end Rendering

theorem shown_eq {cs text : List Char} (h : shown cs = .ok text) :
    text = shownPieces (pieces cs) := by
  obtain ⟨r, hrender, hread⟩ := exists_of_bind_eq_ok h
  obtain ⟨_, -, htext⟩ := exists_of_bind_eq_ok hread
  obtain rfl := Except.ok.inj htext
  exact Rendering.text_foldlM_add hrender

theorem shown_of_untagged {cs : List Char} (h : IsUntagged cs) :
    shown cs = .ok (shownPlain (unescape cs)) := by
  have hpieces := pieces_of_untagged h
  have htags : tags (pieces cs) = [] := by rw [hpieces, tags_gathered]
  obtain ⟨text, htext⟩ := exists_shown_of_no_tags htags
  rw [htext, shown_eq htext, hpieces, shownPieces_gathered, List.reverse_reverse]

end Markup

end Console

end GestureScript
