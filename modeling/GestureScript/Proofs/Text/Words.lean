import GestureScript.Text.Blank

/-!
# Texts and their words

`Spaced` says how a text with given words looks: each word after a gap, and a gap
between any two of them. The words that are read off a text are the only ones it
is spaced into. `Typed` splits a text at its first word when another one follows.
-/

set_option autoImplicit false

namespace GestureScript.Text

/-- A run of blanks, possibly empty. -/
def IsGap (cs : List Char) : Prop := ∀ c ∈ cs, isBlank c = true

def IsWord (cs : List Char) : Prop := cs ≠ [] ∧ ∀ c ∈ cs, isBlank c = false

instance : DecidablePred IsGap := fun cs =>
  decidable_of_iff (cs.all isBlank = true) List.all_eq_true

instance : DecidablePred IsWord := fun cs =>
  decidable_of_iff ((!cs.isEmpty && cs.all (!isBlank ·)) = true) (by simp [IsWord])

/-- No word goes on at the start of the text. -/
def EndsWord : List Char → Prop
  | [] => True
  | c :: _ => isBlank c = true

/-- The text is made of the words, in order, with blanks around and between them. -/
inductive Spaced : List Char → List (List Char) → Prop
  | gap {gap} : IsGap gap → Spaced gap []
  | word {gap word rest words} : IsGap gap → IsWord word → EndsWord rest → Spaced rest words →
      Spaced (gap ++ (word ++ rest)) (word :: words)

/-- A text that is not empty and has no blank at its ends. -/
def IsTrimmed (cs : List Char) : Prop := startsWord cs = true ∧ startsWord cs.reverse = true

instance : DecidablePred IsTrimmed := fun _ => inferInstanceAs (Decidable (_ ∧ _))

/-- The first word of the text, and the trimmed text that is typed after it. -/
def Typed (cs word text : List Char) : Prop :=
  ∃ gap sep tail, cs = gap ++ (word ++ sep ++ text) ++ tail ∧
    IsGap gap ∧ IsWord word ∧ sep ≠ [] ∧ IsGap sep ∧ IsTrimmed text ∧ IsGap tail

theorem isGap_nil : IsGap [] := by simp [IsGap]

theorem IsGap.cons {c : Char} {gap : List Char} (hc : isBlank c = true) (h : IsGap gap) :
    IsGap (c :: gap) := List.forall_mem_cons.mpr ⟨hc, h⟩

theorem IsGap.endsWord {gap : List Char} (h : IsGap gap) : EndsWord gap := by
  cases gap with
  | nil => trivial
  | cons c gap => exact h c (by simp)

theorem IsGap.endsWord_append {gap cs : List Char} (h : IsGap gap) (hne : gap ≠ []) :
    EndsWord (gap ++ cs) := by
  cases gap with
  | nil => exact absurd rfl hne
  | cons c gap => exact h c (by simp)

theorem endsWord_iff (cs : List Char) : EndsWord cs ↔ startsWord cs = false := by
  cases cs <;> simp [EndsWord, startsWord]

/-! ## The words of a spaced text -/

theorem words_gap_append {gap : List Char} (h : IsGap gap) (cs : List Char) :
    words (gap ++ cs) = words cs := by
  induction gap with
  | nil => rfl
  | cons c gap ih =>
    obtain ⟨hc, hgap⟩ := List.forall_mem_cons.mp h
    rw [List.cons_append, words_cons_blank hc, ih hgap]

theorem words_word_append {word rest : List Char} (h : IsWord word) (hrest : EndsWord rest) :
    words (word ++ rest) = word :: words rest := by
  obtain ⟨hne, hword⟩ := h
  induction word with
  | nil => exact absurd rfl hne
  | cons c word ih =>
    obtain ⟨hc, hword⟩ := List.forall_mem_cons.mp hword
    cases word with
    | nil =>
      have hstop : startsWord rest = false := (endsWord_iff rest).mp hrest
      simp [words, hc, hstop]
    | cons d word =>
      have hd : isBlank d = false := hword d (by simp)
      rw [List.cons_append, List.cons_append, words_cons_cons hc hd, ← List.cons_append,
        ih (by simp) hword, consFirst_cons]

theorem Spaced.words_eq {cs : List Char} {ws : List (List Char)} (h : Spaced cs ws) :
    words cs = ws := by
  induction h with
  | gap hgap => simpa using words_gap_append hgap []
  | word hgap hword hrest _ ih => rw [words_gap_append hgap, words_word_append hword hrest, ih]

theorem Spaced.cons_blank {c : Char} {cs : List Char} {ws : List (List Char)}
    (hc : isBlank c = true) (h : Spaced cs ws) : Spaced (c :: cs) ws := by
  cases h with
  | gap hgap => exact .gap (hgap.cons hc)
  | word hgap hword hrest hwords => exact .word (hgap.cons hc) hword hrest hwords

theorem Spaced.append_gap {cs tail : List Char} {ws : List (List Char)} (h : Spaced cs ws)
    (htail : IsGap tail) : Spaced (cs ++ tail) ws := by
  induction h with
  | gap hgap => exact .gap (List.forall_mem_append.mpr ⟨hgap, htail⟩)
  | @word gap word rest words hgap hword hrest _ ih =>
    have hends : EndsWord (rest ++ tail) := by
      cases rest with
      | nil => exact htail.endsWord
      | cons c rest => exact hrest
    rw [List.append_assoc, List.append_assoc]
    exact .word hgap hword hends ih

/-- A character in front of a text that starts with a word belongs to that word. -/
theorem Spaced.cons_first {c : Char} {cs : List Char} {ws : List (List Char)}
    (hc : isBlank c = false) (hcs : startsWord cs = true) (h : Spaced cs ws) :
    Spaced (c :: cs) (consFirst c ws) := by
  cases h with
  | gap hgap =>
    have hstop := (endsWord_iff cs).mp hgap.endsWord
    simp [hcs] at hstop
  | @word gap word rest words hgap hword hrest hwords =>
    cases gap with
    | nil =>
      have hlonger : IsWord (c :: word) :=
        ⟨by simp, List.forall_mem_cons.mpr ⟨hc, hword.2⟩⟩
      exact @Spaced.word [] _ _ _ isGap_nil hlonger hrest hwords
    | cons b gap =>
      have hb : isBlank b = true := hgap b (by simp)
      simp [startsWord, hb] at hcs

theorem spaced_words (cs : List Char) : Spaced cs (words cs) := by
  induction cs with
  | nil => exact .gap isGap_nil
  | cons c cs ih =>
    by_cases hc : isBlank c = true
    · rw [words_cons_blank hc]
      exact ih.cons_blank hc
    · have hword : isBlank c = false := by simpa using hc
      rw [words, if_neg hc]
      by_cases hcs : startsWord cs = true
      · rw [if_pos hcs]
        exact ih.cons_first hword hcs
      · rw [if_neg hcs]
        have hrest : EndsWord cs := (endsWord_iff cs).mpr (by simpa using hcs)
        exact @Spaced.word [] [c] _ _ isGap_nil ⟨by simp, by simpa using hword⟩ hrest ih

/-- The words of a text are what it is spaced into, and nothing else. -/
theorem words_eq_iff (cs : List Char) (ws : List (List Char)) : words cs = ws ↔ Spaced cs ws :=
  ⟨fun h => h ▸ spaced_words cs, Spaced.words_eq⟩

/-! ## Trimming -/

theorem startsWord_append {cs : List Char} (h : startsWord cs = true) (ds : List Char) :
    startsWord (cs ++ ds) = true := by
  cases cs with
  | nil => simp [startsWord] at h
  | cons c cs => exact h

theorem IsWord.startsWord_append {word : List Char} (h : IsWord word) (cs : List Char) :
    startsWord (word ++ cs) = true := by
  obtain ⟨c, word, rfl⟩ := List.exists_cons_of_ne_nil h.1
  simp [startsWord, h.2 c (by simp)]

theorem IsGap.reverse {gap : List Char} (h : IsGap gap) : IsGap gap.reverse :=
  fun c hc => h c (List.mem_reverse.mp hc)

theorem trimLeft_gap_append {gap : List Char} (h : IsGap gap) (cs : List Char) :
    trimLeft (gap ++ cs) = trimLeft cs := List.dropWhile_append_of_pos h

theorem trimLeft_of_startsWord {cs : List Char} (h : startsWord cs = true) : trimLeft cs = cs := by
  cases cs with
  | nil => rfl
  | cons c cs => exact trimLeft_cons_of_not_blank (by simpa [startsWord] using h) cs

/-- What is left of a text once the blanks before it are gone starts with a word. -/
theorem exists_gap_trimLeft (cs : List Char) : ∃ gap, IsGap gap ∧ cs = gap ++ trimLeft cs ∧
    (trimLeft cs = [] ∨ startsWord (trimLeft cs) = true) := by
  induction cs with
  | nil => exact ⟨[], isGap_nil, rfl, .inl rfl⟩
  | cons c cs ih =>
    by_cases hc : isBlank c = true
    · obtain ⟨gap, hgap, hcs, hstart⟩ := ih
      have hdrop : trimLeft (c :: cs) = trimLeft cs := by simp [trimLeft, hc]
      exact ⟨c :: gap, hgap.cons hc, by rw [hdrop, List.cons_append, ← hcs], by rwa [hdrop]⟩
    · have hword : isBlank c = false := by simpa using hc
      rw [trimLeft_cons_of_not_blank hword]
      exact ⟨[], isGap_nil, rfl, .inr (by simp [startsWord, hword])⟩

theorem trim_eq_of_isTrimmed {gap core tail : List Char} (hgap : IsGap gap) (h : IsTrimmed core)
    (htail : IsGap tail) : trim (gap ++ core ++ tail) = core := by
  have hfront : trimLeft (gap ++ core ++ tail) = core ++ tail := by
    rw [List.append_assoc, trimLeft_gap_append hgap]
    exact trimLeft_of_startsWord (startsWord_append h.1 tail)
  rw [trim, hfront, trimRight, List.reverse_append, trimLeft_gap_append htail.reverse,
    trimLeft_of_startsWord h.2, List.reverse_reverse]

/-- The blanks at the end can be cut off from a text that starts with a word. -/
theorem exists_isTrimmed {cs : List Char} (h : startsWord cs = true) :
    ∃ core tail, cs = core ++ tail ∧ IsTrimmed core ∧ IsGap tail := by
  obtain ⟨tail, htail, hcs, hlast⟩ := exists_gap_trimLeft cs.reverse
  have hsplit : cs = (trimLeft cs.reverse).reverse ++ tail.reverse := by
    rw [← List.reverse_append, ← hcs, List.reverse_reverse]
  rcases hlast with hnil | hlast
  · -- then the text is a gap, and does not start with a word
    have hgap : IsGap cs := by
      rw [hsplit, hnil]
      exact htail.reverse
    simp [(endsWord_iff cs).mp hgap.endsWord] at h
  · refine ⟨(trimLeft cs.reverse).reverse, tail.reverse, hsplit, ⟨?_, ?_⟩, htail.reverse⟩
    · obtain ⟨c, core, hcore⟩ : ∃ c core, (trimLeft cs.reverse).reverse = c :: core := by
        apply List.exists_cons_of_ne_nil
        intro hnil
        simp [List.reverse_eq_nil_iff.mp hnil, startsWord] at hlast
      rw [hsplit, hcore] at h
      rw [hcore]
      exact h
    · rwa [List.reverse_reverse]

/-- What is trimmed off a text are gaps at its ends. -/
theorem exists_gaps_trim (cs : List Char) : ∃ gap tail, IsGap gap ∧ IsGap tail ∧
    cs = gap ++ trim cs ++ tail ∧ (trim cs = [] ∨ IsTrimmed (trim cs)) := by
  obtain ⟨gap, hgap, hcs, hstart⟩ := exists_gap_trimLeft cs
  rcases hstart with hnil | hstart
  · have htrim : trim cs = [] := by
      rw [trim, hnil]
      rfl
    exact ⟨gap, [], hgap, isGap_nil, by rw [htrim, List.append_nil, ← hnil]; exact hcs, .inl htrim⟩
  · obtain ⟨core, tail, hcore, htrimmed, htail⟩ := exists_isTrimmed hstart
    have hsplit : cs = gap ++ core ++ tail := by rw [List.append_assoc, ← hcore]; exact hcs
    have htrim : trim cs = core := by
      rw [hsplit]
      exact trim_eq_of_isTrimmed hgap htrimmed htail
    rw [htrim]
    exact ⟨gap, tail, hgap, htail, hsplit, .inr htrimmed⟩

theorem trim_trim (cs : List Char) : trim (trim cs) = trim cs := by
  obtain ⟨-, -, -, -, -, hnil | htrimmed⟩ := exists_gaps_trim cs
  · rw [hnil]
    rfl
  · have htrim := trim_eq_of_isTrimmed isGap_nil htrimmed isGap_nil
    rwa [List.nil_append, List.append_nil] at htrim

theorem words_trim (cs : List Char) : words (trim cs) = words cs := by
  obtain ⟨gap, tail, hgap, htail, hcs, -⟩ := exists_gaps_trim cs
  have hwords : words (trim cs ++ tail) = words (trim cs) :=
    ((spaced_words (trim cs)).append_gap htail).words_eq
  calc words (trim cs)
      = words (gap ++ (trim cs ++ tail)) := by rw [words_gap_append hgap, hwords]
    _ = words cs := by rw [← List.append_assoc, ← hcs]

/-! ## Typed texts -/

theorem words_of_startsWord {cs : List Char} (h : startsWord cs = true) :
    ∃ w ws, words cs = w :: ws := by
  have hspaced := spaced_words cs
  generalize words cs = ws at hspaced ⊢
  cases hspaced with
  | gap hgap => simp [(endsWord_iff cs).mp hgap.endsWord] at h
  | word => exact ⟨_, _, rfl⟩

theorem afterFirstWord_append {word sep text : List Char} (hword : IsWord word) (hne : sep ≠ [])
    (hsep : IsGap sep) (htext : startsWord text = true) :
    afterFirstWord (word ++ sep ++ text) = text := by
  have hfront : trimLeft (word ++ sep ++ text) = word ++ (sep ++ text) := by
    rw [List.append_assoc]
    exact trimLeft_of_startsWord (hword.startsWord_append _)
  have hdrop : (word ++ (sep ++ text)).dropWhile (fun c => !isBlank c) = sep ++ text := by
    rw [List.dropWhile_append_of_pos fun c hc => by simp [hword.2 c hc]]
    obtain ⟨c, sep, rfl⟩ := List.exists_cons_of_ne_nil hne
    have hc : isBlank c = true := hsep c (by simp)
    simp [hc]
  rw [afterFirstWord, hfront, hdrop, trimLeft_gap_append hsep, trimLeft_of_startsWord htext]

theorem IsWord.isTrimmed {word : List Char} (h : IsWord word) : IsTrimmed word := by
  have hreverse : IsWord word.reverse :=
    ⟨by simpa using h.1, fun c hc => h.2 c (List.mem_reverse.mp hc)⟩
  have hstart : ∀ {w : List Char}, IsWord w → startsWord w = true := by
    intro w hw
    simpa using hw.startsWord_append []
  exact ⟨hstart h, hstart hreverse⟩

theorem IsTrimmed.append {first second : List Char} (hfirst : IsTrimmed first) (sep : List Char)
    (hsecond : IsTrimmed second) : IsTrimmed (first ++ sep ++ second) := by
  constructor
  · rw [List.append_assoc]
    exact startsWord_append hfirst.1 _
  · rw [List.reverse_append]
    exact startsWord_append hsecond.2 _

theorem Typed.words_eq {cs word text : List Char} (h : Typed cs word text) :
    (∃ next more, words cs = word :: next :: more) ∧ afterFirstWord (trim cs) = text := by
  obtain ⟨gap, sep, tail, rfl, hgap, hword, hne, hsep, htext, htail⟩ := h
  constructor
  · obtain ⟨next, more, hnext⟩ := words_of_startsWord (startsWord_append htext.1 tail)
    refine ⟨next, more, ?_⟩
    calc words (gap ++ (word ++ sep ++ text) ++ tail)
        = words (gap ++ (word ++ (sep ++ (text ++ tail)))) := by simp only [List.append_assoc]
      _ = word :: words (sep ++ (text ++ tail)) := by
        rw [words_gap_append hgap, words_word_append hword (hsep.endsWord_append hne)]
      _ = word :: next :: more := by rw [words_gap_append hsep, hnext]
  · rw [trim_eq_of_isTrimmed hgap (hword.isTrimmed.append sep htext) htail]
    exact afterFirstWord_append hword hne hsep htext.1

/-- A text of two words or more is typed in one way. -/
theorem typed_iff (cs word text : List Char) : Typed cs word text ↔
    (∃ next more, words cs = word :: next :: more) ∧ afterFirstWord (trim cs) = text := by
  refine ⟨Typed.words_eq, ?_⟩
  rintro ⟨⟨next, more, hws⟩, rfl⟩
  cases (words_eq_iff _ _).mp hws with
  | @word gap _ rest _ hgap hword hrest hwords =>
    cases hwords with
    | @word sep _ rest _ hsep hnext _ _ =>
      have hstart := hnext.startsWord_append rest
      have hne : sep ≠ [] := by
        rintro rfl
        have hstop := (endsWord_iff _).mp hrest
        rw [List.nil_append, hstart] at hstop
        contradiction
      obtain ⟨text, tail, hsplit, htext, htail⟩ := exists_isTrimmed hstart
      have htyped : Typed (gap ++ (word ++ (sep ++ (next ++ rest)))) word text :=
        ⟨gap, sep, tail, by simp [hsplit], hgap, hword, hne, hsep, htext, htail⟩
      rwa [htyped.words_eq.2]

end GestureScript.Text
