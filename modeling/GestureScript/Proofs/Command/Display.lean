import GestureScript.Command.Display
import GestureScript.Proofs.Numeral
import Mathlib.Data.List.Basic

/-!
# What the display form tells

Nothing is escaped in a display form, but each part of it ends where a reader expects: a
number before a sign that no number holds, a point at its bracket, and a typed text only at
the end. So the forms of two commands are the same just when the commands act alike.
-/

set_option autoImplicit false

namespace GestureScript

/-! ## Numbers -/

namespace Numeral

theorem mem_written {c : Char} {n : Int} (h : c ∈ written n) : c = '-' ∨ '0' ≤ c ∧ c ≤ '9' := by
  cases n with
  | ofNat n => exact .inr ((isDigits_toDigits n).2 c h)
  | negSucc n =>
    rcases List.mem_cons.mp h with rfl | hdigit
    · exact .inl rfl
    · exact .inr ((isDigits_toDigits (n + 1)).2 c hdigit)

/-- The sign and the digits of a written integer give it back. -/
theorem signed_splitSign_written (n : Int) :
    signed (splitSign (written n)).1 (natural (splitSign (written n)).2) = n := by
  cases n with
  | ofNat n =>
    have hsplit : splitSign (written (.ofNat n)) = (false, Nat.toDigits 10 n) :=
      splitSign_append .none (isDigits_toDigits n)
    rw [hsplit, natural_toDigits]
    rfl
  | negSucc n =>
    rw [written, splitSign_minus, natural_toDigits]
    rfl

theorem written_injective : Function.Injective written :=
  Function.LeftInverse.injective (g := fun ds => signed (splitSign ds).1 (natural (splitSign ds).2))
    signed_splitSign_written

/-- A number ends at a sign that is neither a digit nor a minus. -/
theorem written_append_inj {c : Char} (hc : c ≠ '-' ∧ ¬('0' ≤ c ∧ c ≤ '9')) {n m : Int}
    {s t : List Char} (h : written n ++ c :: s = written m ++ c :: t) : n = m ∧ s = t := by
  have htake (k : Int) (u : List Char) :
      (written k ++ c :: u).takeWhile (· ≠ c) = written k := by
    have hnot : ∀ d ∈ written k, decide (d ≠ c) = true := by
      intro d hd
      rw [decide_eq_true_eq]
      rintro rfl
      exact (mem_written hd).elim hc.1 hc.2
    rw [List.takeWhile_append_of_pos hnot, List.takeWhile_cons_of_neg (by simp), List.append_nil]
  obtain rfl : n = m := written_injective (by rw [← htake n s, h, htake m t])
  exact ⟨rfl, (List.cons.inj (List.append_cancel_left h)).2⟩

end Numeral

/-! ## Points -/

namespace Point

theorem display_append (p : Point) (s : List Char) : p.display ++ s =
    '(' :: (Numeral.written p.x ++ ',' :: ' ' :: (Numeral.written p.y ++ ')' :: s)) := by
  have hbetween : ", ".toList = [',', ' '] := rfl
  simp [display, hbetween]

/-- A point ends at its bracket. -/
theorem display_append_inj {p q : Point} {s t : List Char}
    (h : p.display ++ s = q.display ++ t) : p = q ∧ s = t := by
  rw [display_append, display_append] at h
  obtain ⟨hx, h⟩ := Numeral.written_append_inj (by decide) (List.cons.inj h).2
  obtain ⟨hy, hrest⟩ := Numeral.written_append_inj (by decide) (List.cons.inj h).2
  obtain ⟨x, y⟩ := p
  exact ⟨congr (congrArg Point.mk hx) hy, hrest⟩

theorem display_injective : Function.Injective display := by
  intro p q h
  refine (display_append_inj (s := []) (t := []) ?_).1
  rw [h]

/-- Each point but the first stands behind a comma and a blank. -/
theorem displayAll_cons (p : Point) (ps : List Point) :
    displayAll (p :: ps) = p.display ++ ps.flatMap fun q => ',' :: ' ' :: q.display := by
  induction ps generalizing p with
  | nil => rw [displayAll, List.flatMap_nil, List.append_nil]
  | cons q ps ih =>
    have hbetween : ", ".toList = [',', ' '] := rfl
    rw [displayAll, ih, List.flatMap_cons, hbetween, List.append_assoc]
    · rfl
    · simp

theorem flatMap_display_inj {ps qs : List Point}
    (h : (ps.flatMap fun q => ',' :: ' ' :: q.display) =
      qs.flatMap fun q => ',' :: ' ' :: q.display) : ps = qs := by
  induction ps generalizing qs with
  | nil =>
    cases qs with
    | nil => rfl
    | cons q qs => exact absurd h.symm (List.cons_ne_nil _ _)
  | cons p ps ih =>
    cases qs with
    | nil => exact absurd h (List.cons_ne_nil _ _)
    | cons q qs =>
      rw [List.flatMap_cons, List.flatMap_cons] at h
      obtain ⟨rfl, hrest⟩ := display_append_inj (List.cons.inj (List.cons.inj h).2).2
      rw [ih hrest]

theorem displayAll_cons_ne_nil (p : Point) (ps : List Point) : displayAll (p :: ps) ≠ [] := by
  rw [displayAll_cons, display_append]
  exact List.cons_ne_nil _ _

theorem displayAll_injective : Function.Injective displayAll := by
  intro ps qs h
  cases ps with
  | nil =>
    cases qs with
    | nil => rfl
    | cons q qs => exact absurd h.symm (displayAll_cons_ne_nil q qs)
  | cons p ps =>
    cases qs with
    | nil => exact absurd h (displayAll_cons_ne_nil p ps)
    | cons q qs =>
      rw [displayAll_cons, displayAll_cons] at h
      obtain ⟨rfl, hrest⟩ := display_append_inj h
      rw [flatMap_display_inj hrest]

end Point

/-! ## Commands -/

namespace Command

/-- Commands that do the same, apart from how long their gestures take and from what happens
before and after typing. -/
inductive ActsLike : Command → Command → Prop
  | tap (points : List Point) (duration duration' : Int) :
      ActsLike (.tap points duration) (.tap points duration')
  | swipe (start finish : Point) (duration duration' : Int) :
      ActsLike (.swipe start finish duration) (.swipe start finish duration')
  | scroll (direction : Direction) (duration duration' : Int) :
      ActsLike (.scroll direction duration) (.scroll direction duration')
  | typeText (text : String) (commit commit' clear clear' : Bool) :
      ActsLike (.typeText text commit clear) (.typeText text commit' clear')
  | wait (duration : Int) : ActsLike (.wait duration) (.wait duration)
  | press (button : Button) : ActsLike (.press button) (.press button)

theorem displayChars_swipe (start finish : Point) (duration : Int) :
    (swipe start finish duration).displayChars =
      "Swipe from ".toList ++ (start.display ++ (" to ".toList ++ finish.display)) :=
  (List.append_assoc _ _ _).trans (List.append_assoc _ _ _)

theorem displayChars_wait (duration : Int) : (wait duration).displayChars =
    "Wait ".toList ++ (Numeral.written duration ++ 'm' :: ['s']) :=
  List.append_assoc _ _ _

theorem displayChars_eq_of_actsLike {a b : Command} (h : ActsLike a b) :
    a.displayChars = b.displayChars := by
  cases h <;> rfl

/-- How the display forms of a kind begin. -/
def Kind.opening : Kind → List Char
  | .tap => ['T', 'a']
  | .swipe => ['S', 'w']
  | .scroll => ['S', 'c']
  | .typeText => ['I', 'n']
  | .wait => ['W', 'a']
  | .press => ['P', 'r']

theorem Kind.opening_injective : Function.Injective opening := by
  intro a b h
  cases a <;> cases b <;> first | rfl | exact absurd h (by decide)

theorem take_displayChars (c : Command) : c.displayChars.take 2 = c.kind.opening := by
  cases c <;> rfl

theorem kind_eq_of_displayChars_eq {a b : Command} (h : a.displayChars = b.displayChars) :
    a.kind = b.kind := by
  apply Kind.opening_injective
  rw [← take_displayChars, h, take_displayChars]

theorem actsLike_of_displayChars_eq {a b : Command} (h : a.displayChars = b.displayChars) :
    ActsLike a b := by
  have hkind := kind_eq_of_displayChars_eq h
  cases a with
  | tap points duration =>
    cases b <;> cases hkind
    rename_i points' duration'
    obtain rfl := Point.displayAll_injective (List.append_cancel_left h)
    exact .tap points duration duration'
  | swipe start finish duration =>
    cases b <;> cases hkind
    rename_i start' finish' duration'
    rw [displayChars_swipe, displayChars_swipe] at h
    obtain ⟨rfl, hfinish⟩ := Point.display_append_inj (List.append_cancel_left h)
    obtain rfl := Point.display_injective (List.append_cancel_left hfinish)
    exact .swipe start finish duration duration'
  | scroll direction duration =>
    cases b <;> cases hkind
    rename_i direction' duration'
    have hlabel := List.append_cancel_left h
    obtain rfl : direction = direction' := by
      cases direction <;> cases direction' <;> first | rfl | cases hlabel
    exact .scroll direction duration duration'
  | typeText text commit clear =>
    cases b <;> cases hkind
    rename_i text' commit' clear'
    obtain rfl := String.toList_injective
      (List.append_cancel_left (List.append_cancel_right h))
    exact .typeText text commit commit' clear clear'
  | wait duration =>
    cases b <;> cases hkind
    rename_i duration'
    rw [displayChars_wait, displayChars_wait] at h
    obtain ⟨rfl, -⟩ := Numeral.written_append_inj (by decide) (List.append_cancel_left h)
    exact .wait duration
  | press button =>
    cases b <;> cases hkind
    rename_i button'
    have hlabel := List.append_cancel_left h
    obtain rfl : button = button' := by
      cases button <;> cases button' <;> first | rfl | cases hlabel
    exact .press button

/-- Two commands have the same display form exactly when they act alike. -/
theorem display_eq_iff_actsLike (a b : Command) : a.display = b.display ↔ ActsLike a b := by
  rw [← String.toList_inj, toList_display, toList_display]
  exact ⟨actsLike_of_displayChars_eq, displayChars_eq_of_actsLike⟩

end Command

end GestureScript
