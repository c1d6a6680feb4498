/-!
# Pieces of a text

Words, lines and keys are gathered from the end of a text to its start, one character
at a time.
-/

set_option autoImplicit false

namespace GestureScript.Text

/-- Puts a character in front of the first piece. -/
def consFirst (c : Char) : List (List Char) → List (List Char)
  | [] => [[c]]
  | p :: ps => (c :: p) :: ps

@[simp] theorem consFirst_nil (c : Char) : consFirst c [] = [[c]] := rfl

@[simp] theorem consFirst_cons (c : Char) (p : List Char) (ps : List (List Char)) :
    consFirst c (p :: ps) = (c :: p) :: ps := rfl

@[simp] theorem flatten_consFirst (c : Char) (ps : List (List Char)) :
    (consFirst c ps).flatten = c :: ps.flatten := by cases ps <;> rfl

/-- The pieces between the occurrences of a separator, empty ones too. -/
def splitOn (separator : Char) : List Char → List (List Char)
  | [] => [[]]
  | c :: cs =>
    if c == separator then [] :: splitOn separator cs else consFirst c (splitOn separator cs)

@[simp] theorem splitOn_nil (separator : Char) : splitOn separator [] = [[]] := rfl

@[simp] theorem splitOn_cons_self (separator : Char) (cs : List Char) :
    splitOn separator (separator :: cs) = [] :: splitOn separator cs := by simp [splitOn]

/-- The pieces are those that lists are split into. -/
theorem splitOn_eq (separator : Char) (cs : List Char) :
    splitOn separator cs = cs.splitOn separator := by
  induction cs with
  | nil => simp
  | cons c cs ih =>
    obtain ⟨p, ps, hsplit⟩ := List.exists_cons_of_ne_nil (List.splitOn_ne_nil separator cs)
    rw [splitOn, ih, List.splitOn_cons_eq_if_modifyHead, hsplit]
    rfl

theorem splitOn_ne_nil (separator : Char) (cs : List Char) : splitOn separator cs ≠ [] := by
  rw [splitOn_eq]
  exact List.splitOn_ne_nil separator cs

theorem intercalate_splitOn (separator : Char) (cs : List Char) :
    [separator].intercalate (splitOn separator cs) = cs := by
  rw [splitOn_eq, List.intercalate_splitOn]

/-- A text without the separator is one piece. -/
theorem splitOn_of_not_mem {separator : Char} {cs : List Char} (h : separator ∉ cs) :
    splitOn separator cs = [cs] := by
  rw [splitOn_eq, List.splitOn_eq_singleton h]

/-- The pieces hold all characters of a text but the separators. -/
theorem forall_mem_splitOn {P : Char → Prop} {separator : Char} {cs : List Char} :
    (∀ piece ∈ splitOn separator cs, ∀ c ∈ piece, P c) ↔ ∀ c ∈ cs, c = separator ∨ P c := by
  induction cs with
  | nil => simp
  | cons c cs ih =>
    by_cases hc : c = separator
    · subst hc
      simp [ih]
    · obtain ⟨piece, pieces, hsplit⟩ := List.exists_cons_of_ne_nil (splitOn_ne_nil separator cs)
      have hcons : splitOn separator (c :: cs) = (c :: piece) :: pieces := by
        rw [splitOn, if_neg (by simpa using hc), hsplit, consFirst_cons]
      rw [hsplit] at ih
      rw [hcons, List.forall_mem_cons, List.forall_mem_cons, List.forall_mem_cons, ← ih,
        List.forall_mem_cons, or_iff_right hc, and_assoc]

theorem not_mem_of_mem_splitOn {separator : Char} {cs piece : List Char}
    (h : piece ∈ splitOn separator cs) : separator ∉ piece := by
  have hothers : ∀ piece ∈ splitOn separator cs, ∀ c ∈ piece, c ≠ separator :=
    forall_mem_splitOn.mpr fun c _ => Classical.em (c = separator)
  exact fun hmem => hothers piece h separator hmem rfl

theorem splitOn_intercalate {separator : Char} {pieces : List (List Char)} (hne : pieces ≠ [])
    (h : ∀ piece ∈ pieces, separator ∉ piece) :
    splitOn separator ([separator].intercalate pieces) = pieces := by
  rw [splitOn_eq, List.splitOn_intercalate separator h hne]

end GestureScript.Text
