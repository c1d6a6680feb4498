import GestureScript.Proofs.Json.Scalar

/-!
# Reading what was written

`Spells` has the texts of a value without binary numbers: blanks may stand behind a separator
and inside brackets, and characters may be written as escapes. Whatever spells a value is read
as that value, and every way of writing spells what is written. The induction goes on to
whatever rest of the text follows.
-/

set_option autoImplicit false

namespace GestureScript.Json

/-! ## Spellings -/

def IsGap (gap : List Char) : Prop := ∀ c ∈ gap, isSpace c = true

mutual

/-- A text of a value, whose integers are short enough to be read. -/
inductive Spells (l : Limits) : Json → List Char → Prop
  | null : Spells l .null "null".toList
  | bool (b : Bool) : Spells l (.bool b) (boolChars b)
  | int {n : Int} : (Numeral.written n).length ≤ l.whole → Spells l (.int n) (Numeral.written n)
  | text (asciiOnly : Bool) (s : String) : Spells l (.text s) (textChars asciiOnly s)
  | emptyArray : Spells l (.array []) ['[', ']']
  | array {js cs gap gap'} : IsGap gap → SpellsItems l js cs → IsGap gap' →
      Spells l (.array js) ('[' :: (gap ++ (cs ++ (gap' ++ [']']))))
  | emptyObject : Spells l (.object []) [openBrace, closeBrace]
  | object {es cs gap gap'} : IsGap gap → SpellsEntries l es cs → IsGap gap' →
      Spells l (.object es) (openBrace :: (gap ++ (cs ++ (gap' ++ [closeBrace]))))

/-- One item or more. -/
inductive SpellsItems (l : Limits) : List Json → List Char → Prop
  | last {j cs} : Spells l j cs → SpellsItems l [j] cs
  | next {j js cs ds gap} : Spells l j cs → IsGap gap → SpellsItems l js ds →
      SpellsItems l (j :: js) (cs ++ ',' :: (gap ++ ds))

/-- One entry or more. -/
inductive SpellsEntries (l : Limits) : List (String × Json) → List Char → Prop
  | last {v cs gap} (asciiOnly : Bool) (k : String) : IsGap gap → Spells l v cs →
      SpellsEntries l [(k, v)] (textChars asciiOnly k ++ ':' :: (gap ++ cs))
  | next {v es cs ds gap gap'} (asciiOnly : Bool) (k : String) : IsGap gap → Spells l v cs →
      IsGap gap' → SpellsEntries l es ds →
      SpellsEntries l ((k, v) :: es)
        (textChars asciiOnly k ++ ':' :: (gap ++ (cs ++ ',' :: (gap' ++ ds))))

end

variable {l : Limits} {fuel : Nat} {rest : List Char}

/-! ## How spellings start -/

theorem exists_head_written (n : Int) :
    ∃ c cs, Numeral.written n = c :: cs ∧ isSpace c = false ∧
      c ≠ ']' ∧ c ≠ '[' ∧ c ≠ openBrace := by
  cases n with
  | ofNat n =>
    obtain ⟨d, ds, hds, hd⟩ := exists_toDigits n
    have hne := fun c => ne_of_isDigit (d := c) hd
    refine ⟨d, ds, hds, ?_, hne _ (by decide), hne _ (by decide), hne _ (by decide)⟩
    simp [isSpace, hne ' ' (by decide), hne '\t' (by decide), hne '\n' (by decide),
      hne '\r' (by decide)]
  | negSucc n => exact ⟨'-', _, rfl, by decide⟩

/-- The text of a value starts with a character of its own, which closes nothing. -/
theorem Spells.exists_head {j : Json} {cs : List Char} (h : Spells l j cs) :
    ∃ d ds, cs = d :: ds ∧ isSpace d = false ∧ d ≠ ']' := by
  cases h with
  | null => exact ⟨'n', _, rfl, by decide⟩
  | bool b =>
    cases b with
    | true => exact ⟨'t', _, rfl, by decide⟩
    | false => exact ⟨'f', _, rfl, by decide⟩
  | @int n =>
    obtain ⟨d, ds, hds, hspace, hclose, -⟩ := exists_head_written n
    exact ⟨d, ds, hds, hspace, hclose⟩
  | text => exact ⟨'"', _, rfl, by decide⟩
  | emptyArray | array => exact ⟨'[', _, rfl, by decide⟩
  | emptyObject | object => exact ⟨openBrace, _, rfl, by decide⟩

theorem SpellsItems.exists_head {js : List Json} {cs : List Char} (h : SpellsItems l js cs) :
    ∃ d ds, cs = d :: ds ∧ isSpace d = false ∧ d ≠ ']' := by
  cases h with
  | last hj => exact hj.exists_head
  | next hj =>
    obtain ⟨d, ds, rfl, hspace, hclose⟩ := hj.exists_head
    exact ⟨d, _, rfl, hspace, hclose⟩

theorem SpellsEntries.exists_head {es : List (String × Json)} {cs : List Char}
    (h : SpellsEntries l es cs) : ∃ ds, cs = '"' :: ds := by
  cases h with
  | last => exact ⟨_, rfl⟩
  | next => exact ⟨_, rfl⟩

/-! ## Blanks -/

theorem isGap_nil : IsGap [] := by simp [IsGap]

theorem skipSpace_gap {gap : List Char} (h : IsGap gap) (cs : List Char) :
    skipSpace (gap ++ cs) = skipSpace cs := List.dropWhile_append_of_pos h

theorem skipSpace_cons {c : Char} (h : isSpace c = false) (cs : List Char) :
    skipSpace (c :: cs) = c :: cs := by
  simp [skipSpace, h]

theorem skipSpace_gap_cons {gap : List Char} (hgap : IsGap gap) {c : Char}
    (h : isSpace c = false) (cs : List Char) : skipSpace (gap ++ c :: cs) = c :: cs := by
  rw [skipSpace_gap hgap, skipSpace_cons h]

/-- Blanks do not go on with a number. -/
theorem endsNumber_gap {gap : List Char} (h : IsGap gap) (hrest : EndsNumber rest) :
    EndsNumber (gap ++ rest) := by
  cases gap with
  | nil => exact hrest
  | cons c cs =>
    have hc : isSpace c = true := h c List.mem_cons_self
    simp only [isSpace, Bool.or_eq_true, beq_iff_eq] at hc
    rcases hc with ((rfl | rfl) | rfl) | rfl <;> exact endsNumber_cons (by decide) _

theorem readValue_gap {gap : List Char} (h : IsGap gap) (cs : List Char) :
    readValue l fuel (gap ++ cs) = readValue l fuel cs := by
  cases fuel with
  | zero => simp [readValue]
  | succ fuel => rw [readValue, readValue, skipSpace_gap h]

theorem readItems_gap {gap : List Char} (h : IsGap gap) (cs : List Char) :
    readItems l fuel (gap ++ cs) = readItems l fuel cs := by
  cases fuel with
  | zero => simp [readItems]
  | succ fuel => rw [readItems, readItems, readValue_gap h]

theorem readEntries_gap {gap : List Char} (h : IsGap gap) (cs : List Char) :
    readEntries l fuel (gap ++ cs) = readEntries l fuel cs := by
  cases fuel with
  | zero => simp [readEntries]
  | succ fuel => rw [readEntries, readEntries, skipSpace_gap h]

/-! ## Reading spellings -/

theorem readValue_scalar {c : Char} (hspace : isSpace c = false) (harray : c ≠ '[')
    (hobject : c ≠ openBrace) (cs : List Char) :
    readValue l (fuel + 1) (c :: cs) = readScalar l (c :: cs) := by
  rw [readValue, skipSpace_cons hspace]
  split <;> simp_all [openBrace]

theorem readValue_text (asciiOnly : Bool) (s : String) (rest : List Char) :
    readValue l (fuel + 1) (textChars asciiOnly s ++ rest) = some (.text s, rest) := by
  rw [← readScalar_text l asciiOnly s rest]
  exact readValue_scalar (by decide) (by decide) (by decide) _

theorem readValue_int {n : Int} (hlength : (Numeral.written n).length ≤ l.whole)
    (h : EndsNumber rest) :
    readValue l (fuel + 1) (Numeral.written n ++ rest) = some (.int n, rest) := by
  obtain ⟨c, cs, hcs, hspace, -, harray, hobject⟩ := exists_head_written n
  have hscalar := readScalar_int hlength h
  rw [hcs, List.cons_append] at hscalar
  rw [hcs, List.cons_append, readValue_scalar hspace harray hobject, hscalar]

theorem readValue_array {gap cs : List Char} {js : List Json} (hgap : IsGap gap) {c : Char}
    (hspace : isSpace c = false) (hopen : c ≠ ']')
    (h : readItems l fuel (c :: cs) = some (js, rest)) :
    readValue l (fuel + 1) ('[' :: (gap ++ c :: cs)) = some (.array js, rest) := by
  rw [readValue, skipSpace_cons (c := '[') (by decide)]
  simp only [skipSpace_gap_cons hgap hspace]
  split
  next heq => exact absurd (List.cons.inj heq).1 hopen
  next => rw [readItems_gap hgap, h]; rfl

theorem readValue_object {gap cs : List Char} {es : List (String × Json)} (hgap : IsGap gap)
    (h : readEntries l fuel ('"' :: cs) = some (es, rest)) :
    readValue l (fuel + 1) (openBrace :: (gap ++ '"' :: cs)) = some (.object es, rest) := by
  rw [readValue, skipSpace_cons (c := openBrace) (by decide)]
  simp only [openBrace]
  rw [skipSpace_gap_cons hgap (by decide), readEntries_gap hgap, h]
  rfl

theorem readItems_last {cs gap : List Char} {j : Json} (hgap : IsGap gap)
    (h : readValue l fuel cs = some (j, gap ++ ']' :: rest)) :
    readItems l (fuel + 1) cs = some ([j], rest) := by
  rw [readItems, h]
  simp [skipSpace_gap_cons hgap (c := ']') (by decide)]

theorem readItems_next {cs more : List Char} {j : Json} {js : List Json}
    (h : readValue l fuel cs = some (j, ',' :: more))
    (hmore : readItems l fuel more = some (js, rest)) :
    readItems l (fuel + 1) cs = some (j :: js, rest) := by
  rw [readItems, h]
  simp [skipSpace_cons (c := ',') (by decide), hmore]

theorem readEntries_last {cs gap : List Char} {asciiOnly : Bool} {k : String} {v : Json}
    (hgap : IsGap gap) (h : readValue l fuel cs = some (v, gap ++ closeBrace :: rest)) :
    readEntries l (fuel + 1) (textChars asciiOnly k ++ ':' :: cs) = some ([(k, v)], rest) := by
  rw [readEntries, textChars_string, List.cons_append, List.cons_append,
    skipSpace_cons (c := '"') (by decide)]
  simp [readText_flatMap, skipSpace_cons (c := ':') (by decide), h,
    skipSpace_gap_cons hgap (c := closeBrace) (by decide)]
  rfl

theorem readEntries_next {cs more : List Char} {asciiOnly : Bool} {k : String} {v : Json}
    {es : List (String × Json)} (h : readValue l fuel cs = some (v, ',' :: more))
    (hmore : readEntries l fuel more = some (es, rest)) :
    readEntries l (fuel + 1) (textChars asciiOnly k ++ ':' :: cs) = some ((k, v) :: es, rest) := by
  rw [readEntries, textChars_string, List.cons_append, List.cons_append,
    skipSpace_cons (c := '"') (by decide)]
  simp [readText_flatMap, skipSpace_cons (c := ':') (by decide), h,
    skipSpace_cons (c := ',') (by decide), hmore]

mutual

/-- Each call takes a character at least, so the length of the text is enough fuel. -/
theorem Spells.readValue_eq {j : Json} {cs : List Char} (h : Spells l j cs) {fuel : Nat}
    {rest : List Char} (hrest : EndsNumber rest) (hfuel : cs.length ≤ fuel) :
    readValue l fuel (cs ++ rest) = some (j, rest) := by
  obtain ⟨fuel, rfl⟩ : ∃ n, fuel = n + 1 := by
    obtain ⟨d, ds, rfl, -⟩ := h.exists_head
    exact Nat.exists_eq_succ_of_ne_zero (by simp at hfuel; omega)
  cases h with
  | null => exact readValue_scalar (by decide) (by decide) (by decide) _
  | bool b =>
    cases b with
    | true => exact readValue_scalar (by decide) (by decide) (by decide) _
    | false => exact readValue_scalar (by decide) (by decide) (by decide) _
  | int hlength => exact readValue_int hlength hrest
  | text asciiOnly s => exact readValue_text asciiOnly s rest
  | emptyArray => rfl
  | @array js cs gap gap' hgap hjs hgap' =>
    have hitems : readItems l fuel (cs ++ (gap' ++ ']' :: rest)) = some (js, rest) :=
      hjs.readItems_eq hgap' (by simp at hfuel; omega)
    -- The array must not be taken for an empty one, so it matters how its first item starts.
    obtain ⟨d, ds, rfl, hspace, hclose⟩ := hjs.exists_head
    simpa using readValue_array hgap hspace hclose hitems
  | emptyObject => rfl
  | @object es cs gap gap' hgap hes hgap' =>
    have hentries : readEntries l fuel (cs ++ (gap' ++ closeBrace :: rest)) = some (es, rest) :=
      hes.readEntries_eq hgap' (by simp at hfuel; omega)
    obtain ⟨ds, rfl⟩ := hes.exists_head
    simpa using readValue_object hgap hentries

theorem SpellsItems.readItems_eq {js : List Json} {cs : List Char} (h : SpellsItems l js cs)
    {gap : List Char} (hgap : IsGap gap) {fuel : Nat} {rest : List Char}
    (hfuel : cs.length < fuel) :
    readItems l fuel (cs ++ (gap ++ ']' :: rest)) = some (js, rest) := by
  obtain ⟨fuel, rfl⟩ : ∃ n, fuel = n + 1 := Nat.exists_eq_succ_of_ne_zero (by omega)
  cases h with
  | last hj =>
    apply readItems_last hgap
    exact hj.readValue_eq (endsNumber_gap hgap (endsNumber_cons (by decide) rest))
      (Nat.le_of_lt_succ hfuel)
  | next hj hgap' hjs =>
    obtain ⟨d, ds, hds, -⟩ := hj.exists_head
    rw [List.length_append, List.length_cons, List.length_append] at hfuel
    rw [List.append_assoc, List.cons_append, List.append_assoc]
    apply readItems_next
    · exact hj.readValue_eq (endsNumber_cons (by decide) _) (by omega)
    · rw [readItems_gap hgap']
      refine hjs.readItems_eq hgap ?_
      simp [hds] at hfuel
      omega

theorem SpellsEntries.readEntries_eq {es : List (String × Json)} {cs : List Char}
    (h : SpellsEntries l es cs) {gap : List Char} (hgap : IsGap gap) {fuel : Nat}
    {rest : List Char} (hfuel : cs.length < fuel) :
    readEntries l fuel (cs ++ (gap ++ closeBrace :: rest)) = some (es, rest) := by
  obtain ⟨fuel, rfl⟩ : ∃ n, fuel = n + 1 := Nat.exists_eq_succ_of_ne_zero (by omega)
  cases h with
  | last asciiOnly k hgap' hv =>
    simp only [List.length_append, List.length_cons] at hfuel
    simp only [List.append_assoc, List.cons_append]
    apply readEntries_last hgap
    rw [readValue_gap hgap']
    exact hv.readValue_eq (endsNumber_gap hgap (endsNumber_cons (by decide) rest)) (by omega)
  | next asciiOnly k hgap' hv hgap'' hes =>
    simp only [List.length_append, List.length_cons] at hfuel
    simp only [List.append_assoc, List.cons_append]
    apply readEntries_next
    · rw [readValue_gap hgap']
      exact hv.readValue_eq (endsNumber_cons (by decide) _) (by omega)
    · rw [readEntries_gap hgap'']
      exact hes.readEntries_eq hgap (by omega)

end

/-- Any limits that a value keeps to are enough. -/
theorem Spells.read?_eq {j : Json} {cs gap : List Char} (h : Spells l j cs) (hgap : IsGap gap)
    (hdepth : j.depth ≤ l.depth) : read? l (cs ++ gap) = some j := by
  have hskip : skipSpace gap = [] := by simpa [skipSpace] using skipSpace_gap hgap []
  have hends : EndsNumber gap := by simpa using endsNumber_gap hgap endsNumber_nil
  rw [read?, h.readValue_eq hends (by simp; omega)]
  simp [hskip, hdepth]

/-! ## Writing spells -/

/-- Is the integer short enough to be read? -/
def Limits.Takes (l : Limits) (n : Int) : Prop := (Numeral.written n).length ≤ l.whole

mutual

/-- A value without binary numbers, whose integers are of a kind. -/
def Fits (P : Int → Prop) : Json → Prop
  | .null | .bool _ | .text _ => True
  | .int n => P n
  | .real _ => False
  | .array items => FitItems P items
  | .object entries => FitEntries P entries

def FitItems (P : Int → Prop) : List Json → Prop
  | [] => True
  | j :: js => Fits P j ∧ FitItems P js

def FitEntries (P : Int → Prop) : List (String × Json) → Prop
  | [] => True
  | (_, v) :: es => Fits P v ∧ FitEntries P es

end

mutual

theorem isWritable_of_fits (j : Json) (h : Fits Numeral.IsShort j) : j.isWritable = true := by
  match j with
  | .null | .bool _ | .text _ => rfl
  | .int n => exact (Numeral.isWritable_iff n).mpr h
  | .real x => exact h.elim
  | .array items => exact areWritable_of_fits items h
  | .object entries => exact haveWritable_of_fits entries h

theorem areWritable_of_fits (js : List Json) (h : FitItems Numeral.IsShort js) :
    areWritable js = true := by
  match js with
  | [] => rfl
  | j :: js => simp [areWritable, isWritable_of_fits j h.1, areWritable_of_fits js h.2]

theorem haveWritable_of_fits (es : List (String × Json)) (h : FitEntries Numeral.IsShort es) :
    haveWritable es = true := by
  match es with
  | [] => rfl
  | (k, v) :: es => simp [haveWritable, isWritable_of_fits v h.1, haveWritable_of_fits es h.2]

end

/-- The separators are the usual ones, perhaps with blanks behind them. -/
structure Style.Usual (style : Style) : Prop where
  comma : ∃ gap, style.comma = ',' :: gap ∧ IsGap gap
  colon : ∃ gap, style.colon = ':' :: gap ∧ IsGap gap

theorem Style.usual_compact : Style.compact.Usual := ⟨⟨[], rfl, isGap_nil⟩, ⟨[], rfl, isGap_nil⟩⟩

theorem Style.usual_spaced : Style.spaced.Usual :=
  ⟨⟨[' '], rfl, by simp [IsGap, isSpace]⟩, ⟨[' '], rfl, by simp [IsGap, isSpace]⟩⟩

mutual

theorem spells_chars {style : Style} (hstyle : style.Usual) (j : Json) (hj : Fits l.Takes j) :
    Spells l j (chars style j) := by
  match j with
  | .null => exact .null
  | .bool b => exact .bool b
  | .int n => exact .int hj
  | .real x => exact hj.elim
  | .text s => exact .text style.asciiOnly s
  | .array [] => exact .emptyArray
  | .array (j :: js) =>
    simpa [chars] using
      Spells.array isGap_nil (spells_itemChars hstyle (j :: js) (by simp) hj) isGap_nil
  | .object [] => exact .emptyObject
  | .object ((k, v) :: es) =>
    simpa [chars] using
      Spells.object isGap_nil (spells_entryChars hstyle ((k, v) :: es) (by simp) hj) isGap_nil

theorem spells_itemChars {style : Style} (hstyle : style.Usual) (js : List Json) (hne : js ≠ [])
    (hjs : FitItems l.Takes js) : SpellsItems l js (itemChars style js) := by
  match js with
  | [j] => exact .last (spells_chars hstyle j hjs.1)
  | j :: k :: js =>
    obtain ⟨gap, hcomma, hgap⟩ := hstyle.comma
    have hrest := spells_itemChars hstyle (k :: js) (by simp) hjs.2
    simpa [itemChars, hcomma] using .next (spells_chars hstyle j hjs.1) hgap hrest

theorem spells_entryChars {style : Style} (hstyle : style.Usual) (es : List (String × Json))
    (hne : es ≠ []) (hes : FitEntries l.Takes es) : SpellsEntries l es (entryChars style es) := by
  obtain ⟨gap, hcolon, hgap⟩ := hstyle.colon
  match es with
  | [(k, v)] =>
    simpa [entryChars, hcolon] using
      SpellsEntries.last style.asciiOnly k hgap (spells_chars hstyle v hes.1)
  | (k, v) :: e :: es =>
    obtain ⟨gap', hcomma, hgap'⟩ := hstyle.comma
    have hrest := spells_entryChars hstyle (e :: es) (by simp) hes.2
    simpa [entryChars, hcolon, hcomma] using
      SpellsEntries.next style.asciiOnly k hgap (spells_chars hstyle v hes.1) hgap' hrest

end

theorem isGap_newline (indent : Nat) : IsGap (newline indent) := by
  intro c hc
  rcases List.mem_cons.mp hc with rfl | hc
  · decide
  · rw [(List.mem_replicate.mp hc).2]
    decide

mutual

theorem spells_indentedChars (indent : Nat) (j : Json) (hj : Fits l.Takes j) :
    Spells l j (indentedChars indent j) := by
  match j with
  | .null => exact .null
  | .bool b => exact .bool b
  | .int n => exact .int hj
  | .real x => exact hj.elim
  | .text s => exact .text false s
  | .array [] => exact .emptyArray
  | .array (j :: js) =>
    simpa [indentedChars] using Spells.array (isGap_newline (indent + 2))
      (spells_indentedItems (indent + 2) (j :: js) (by simp) hj) (isGap_newline indent)
  | .object [] => exact .emptyObject
  | .object ((k, v) :: es) =>
    simpa [indentedChars] using Spells.object (isGap_newline (indent + 2))
      (spells_indentedEntries (indent + 2) ((k, v) :: es) (by simp) hj) (isGap_newline indent)

theorem spells_indentedItems (indent : Nat) (js : List Json) (hne : js ≠ [])
    (hjs : FitItems l.Takes js) : SpellsItems l js (indentedItems indent js) := by
  match js with
  | [j] => exact .last (spells_indentedChars indent j hjs.1)
  | j :: k :: js =>
    have hrest := spells_indentedItems indent (k :: js) (by simp) hjs.2
    simpa [indentedItems] using
      .next (spells_indentedChars indent j hjs.1) (isGap_newline indent) hrest

theorem spells_indentedEntries (indent : Nat) (es : List (String × Json)) (hne : es ≠ [])
    (hes : FitEntries l.Takes es) : SpellsEntries l es (indentedEntries indent es) := by
  have hgap : IsGap [' '] := by simp [IsGap, isSpace]
  match es with
  | [(k, v)] =>
    simpa [indentedEntries] using
      SpellsEntries.last false k hgap (spells_indentedChars indent v hes.1)
  | (k, v) :: e :: es =>
    have hrest := spells_indentedEntries indent (e :: es) (by simp) hes.2
    simpa [indentedEntries] using SpellsEntries.next false k hgap
      (spells_indentedChars indent v hes.1) (isGap_newline indent) hrest

end

theorem read?_chars {style : Style} (hstyle : style.Usual) {j : Json} (h : Fits l.Takes j)
    (hdepth : j.depth ≤ l.depth) : read? l (chars style j) = some j := by
  simpa using (spells_chars hstyle j h).read?_eq isGap_nil hdepth

end GestureScript.Json
