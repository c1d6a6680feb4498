import GestureScript.Json.Reader
import GestureScript.Json.Writer
import GestureScript.Proofs.Numeral

/-!
# Texts and integers that were written

Every character is read from its escapes or from itself, so a text is read as it was, whether
it was written in ASCII or not. An integer is, too, if the rest cannot be taken for more of a
number.
-/

set_option autoImplicit false

namespace GestureScript.Json

/-! ## Texts -/

theorem hex_succ {width : Nat} (h : 0 < width) (n : Nat) :
    Text.hex (width + 1) n = Text.hex width (n / 16) ++ [Nat.digitChar (n % 16)] := by
  unfold Text.hex
  by_cases hn : n < 16
  · obtain ⟨width, rfl⟩ := Nat.exists_eq_succ_of_ne_zero (Nat.ne_of_gt h)
    rw [Nat.toDigits_of_lt_base hn, Nat.div_eq_of_lt hn, Nat.mod_eq_of_lt hn]
    simp [List.replicate_succ']
  · rw [Nat.toDigits_of_base_le (by decide) (Nat.le_of_not_lt hn)]
    simp [Nat.add_sub_add_right]

theorem hexDigit?_digitChar : ∀ d < 16, hexDigit? (Nat.digitChar d) = some d := by decide

/-- The number of a unit is read from its four digits. -/
theorem exists_hex {n : Nat} (h : n < 0x10000) :
    ∃ a b c d, Text.hex 4 n = [a, b, c, d] ∧ unit? a b c d = some n := by
  have hfirst : n / 16 / 16 / 16 < 16 := by omega
  refine ⟨Nat.digitChar (n / 16 / 16 / 16), Nat.digitChar (n / 16 / 16 % 16),
    Nat.digitChar (n / 16 % 16), Nat.digitChar (n % 16), ?_, ?_⟩
  · rw [hex_succ (by decide), hex_succ (by decide), hex_succ (by decide), Text.hex,
      Nat.toDigits_of_lt_base hfirst]
    rfl
  · have hlater (m : Nat) : m % 16 < 16 := Nat.mod_lt m (by decide)
    simp only [unit?, hexDigit?_digitChar _ hfirst, hexDigit?_digitChar _ (hlater _)]
    congr 1
    omega

theorem readText_unicodeEscape {n : Nat} (h : n < 0x10000) (hhigh : isHighUnit n = false)
    (hlow : isLowUnit n = false) (cs : List Char) :
    readText (unicodeEscape n ++ cs) = consRead (Char.ofNat n) (readText cs) := by
  obtain ⟨a, b, c, d, hhex, hunit⟩ := exists_hex h
  simp only [unicodeEscape, hhex, List.cons_append, List.nil_append, readText, hunit, hhigh, hlow,
    Bool.false_eq_true, if_false]

theorem readText_pair {n m : Nat} (hn : isHighUnit n = true) (hm : isLowUnit m = true)
    (cs : List Char) :
    readText (unicodeEscape n ++ (unicodeEscape m ++ cs)) =
      consRead (Char.ofNat (0x10000 + (n - 0xd800) * 0x400 + (m - 0xdc00))) (readText cs) := by
  obtain ⟨a, b, c, d, hhex, hunit⟩ := exists_hex (n := n) (by simp [isHighUnit] at hn; omega)
  obtain ⟨e, f, g, h, hhex', hunit'⟩ := exists_hex (n := m) (by simp [isLowUnit] at hm; omega)
  simp only [unicodeEscape, hhex, hhex', List.cons_append, List.nil_append, readText, hunit, hunit',
    hn, hm, if_true]

theorem readText_unitEscapes (c : Char) (cs : List Char) :
    readText (unitEscapes c.toNat ++ cs) = consRead c (readText cs) := by
  have hvalid : c.toNat < 0xd800 ∨ 0xdfff < c.toNat ∧ c.toNat < 0x110000 := c.valid
  unfold unitEscapes
  split
  next hsmall =>
    rw [readText_unicodeEscape hsmall, Char.ofNat_toNat]
    · simp [isHighUnit]; omega
    · simp [isLowUnit]; omega
  next hlarge =>
    have hsum : 0x10000 + (0xd800 + (c.toNat - 0x10000) / 0x400 - 0xd800) * 0x400 +
        (0xdc00 + (c.toNat - 0x10000) % 0x400 - 0xdc00) = c.toNat := by omega
    rw [List.append_assoc, readText_pair, hsum, Char.ofNat_toNat]
    · simp [isHighUnit]; omega
    · simp [isLowUnit]; omega
theorem readText_textChar (asciiOnly : Bool) (c : Char) (cs : List Char) :
    readText (textChar asciiOnly c ++ cs) = consRead c (readText cs) := by
  have hofNat : ∀ {n : Nat}, c.toNat = n → c = Char.ofNat n := by
    rintro n rfl
    exact (Char.ofNat_toNat c).symm
  unfold textChar
  dsimp only
  split
  next hquote => subst hquote; rfl
  next hquote =>
  split
  next hslash => subst hslash; rfl
  next hslash =>
  -- The five control characters with short escapes; all others are written by their numbers.
  split
  next h => rw [hofNat h]; rfl
  split
  next h => rw [hofNat h]; rfl
  split
  next h => rw [hofNat h]; rfl
  split
  next h => rw [hofNat h]; rfl
  split
  next h => rw [hofNat h]; rfl
  split
  next hcontrol =>
    rw [readText_unicodeEscape (by omega), Char.ofNat_toNat]
    · simp [isHighUnit]; omega
    · simp [isLowUnit]; omega
  next hplain =>
  split
  next => exact readText_unitEscapes c cs
  next => simp [readText, hslash, hplain]

theorem readText_flatMap (asciiOnly : Bool) (s rest : List Char) :
    readText (s.flatMap (textChar asciiOnly) ++ '"' :: rest) = some (s, rest) := by
  induction s with
  | nil => rfl
  | cons c s ih =>
    rw [List.flatMap_cons, List.append_assoc, readText_textChar, ih]
    rfl

/-! ## Numbers -/

/-- What does not go on with a number. -/
def EndsNumber (rest : List Char) : Prop :=
  ∀ c ∈ rest.head?, c.isDigit = false ∧ c ≠ '.' ∧ c ≠ 'e' ∧ c ≠ 'E'

theorem endsNumber_nil : EndsNumber [] := by
  intro c hc
  cases hc

theorem endsNumber_cons {c : Char} (h : c.isDigit = false ∧ c ≠ '.' ∧ c ≠ 'e' ∧ c ≠ 'E')
    (rest : List Char) : EndsNumber (c :: rest) := by
  intro d hd
  cases hd
  exact h

variable {rest : List Char}

theorem EndsNumber.takeWhile_eq_nil (h : EndsNumber rest) : rest.takeWhile Char.isDigit = [] := by
  cases rest with
  | nil => rfl
  | cons c cs => simp [(h c rfl).1]

theorem EndsNumber.dropWhile_eq (h : EndsNumber rest) : rest.dropWhile Char.isDigit = rest := by
  cases rest with
  | nil => rfl
  | cons c cs => simp [(h c rfl).1]

theorem EndsNumber.readFraction_eq (h : EndsNumber rest) :
    readFraction rest = some ([], rest) := by
  cases rest with
  | nil => rfl
  | cons c cs => simp [readFraction, (h c rfl).2.1]

theorem EndsNumber.readExponent_eq (h : EndsNumber rest) :
    readExponent rest = some (none, rest) := by
  cases rest with
  | nil => rfl
  | cons c cs => simp [readExponent, (h c rfl).2.2]

theorem readWhole_toDigits (n : Nat) (h : EndsNumber rest) :
    readWhole (Nat.toDigits 10 n ++ rest) = some (Nat.toDigits 10 n, rest) := by
  by_cases hzero : n = 0
  · subst hzero
    rfl
  have hdigits : ∀ c ∈ Nat.toDigits 10 n, c.isDigit = true := fun c hc =>
    Nat.isDigit_of_mem_toDigits (by decide) (by decide) hc
  have htake : (Nat.toDigits 10 n ++ rest).takeWhile Char.isDigit = Nat.toDigits 10 n := by
    rw [List.takeWhile_append_of_pos hdigits, h.takeWhile_eq_nil, List.append_nil]
  have hdrop : (Nat.toDigits 10 n ++ rest).dropWhile Char.isDigit = rest := by
    rw [List.dropWhile_append_of_pos hdigits, h.dropWhile_eq]
  obtain ⟨d, ds, hds⟩ := List.exists_cons_of_ne_nil (Nat.toDigits_ne_nil (b := 10) (n := n))
  have hhead : d ≠ '0' := Numeral.head_toDigits_ne hzero hds
  unfold readWhole
  rw [htake, hdrop, hds]
  split
  next heq => exact absurd (List.cons.inj heq).1 hhead
  next => rfl

theorem readNumber_toDigits {l : Limits} {negative : Bool} {n : Nat}
    (hlength : negative.toNat + (Nat.toDigits 10 n).length ≤ l.whole) (h : EndsNumber rest) :
    readNumber l negative (Nat.toDigits 10 n ++ rest) =
      some (.int (Numeral.signed negative n), rest) := by
  rw [readNumber, readWhole_toDigits n h]
  dsimp only
  rw [if_neg (Nat.not_lt.mpr hlength), h.readFraction_eq]
  dsimp only
  rw [h.readExponent_eq]
  simp [Numeral.natural_toDigits]

/-! ## Scalars -/

theorem readWord_of_not_mem {c : Char} (h : c ∉ ['n', 't', 'f', 'N', 'I', '-']) (cs : List Char) :
    readWord (c :: cs) = none := by
  simp only [List.mem_cons, List.not_mem_nil, or_false, not_or] at h
  simp [readWord, wordValues, h, Ne.symm]

/-- No word starts with a digit. -/
theorem readWord_digit {c : Char} (h : c.isDigit = true) (cs : List Char) :
    readWord (c :: cs) = none := by
  have hletters : ['n', 't', 'f', 'N', 'I', '-'].any Char.isDigit = false := by decide
  apply readWord_of_not_mem
  intro hc
  rw [List.any_eq_false] at hletters
  exact hletters c hc h

theorem readWord_minus {c : Char} (h : c ≠ 'I') (cs : List Char) :
    readWord ('-' :: c :: cs) = none := by
  simp [readWord, wordValues, h.symm]

theorem readScalar_text (l : Limits) (asciiOnly : Bool) (s : String) (rest : List Char) :
    readScalar l (textChars asciiOnly s ++ rest) = some (.text s, rest) := by
  rw [textChars_string, List.cons_append, List.cons_append, readScalar,
    readWord_of_not_mem (by decide)]
  simp [readText_flatMap]

theorem ne_of_isDigit {c d : Char} (hc : c.isDigit = true) (hd : d.isDigit = false) : c ≠ d := by
  rintro rfl
  rw [hc] at hd
  contradiction

theorem readScalar_digit (l : Limits) {c : Char} (h : c.isDigit = true) (cs : List Char) :
    readScalar l (c :: cs) = readNumber l false (c :: cs) := by
  have hquote : c ≠ '"' := ne_of_isDigit h (by decide)
  have hminus : c ≠ '-' := ne_of_isDigit h (by decide)
  simp [readScalar, readWord_digit h, hquote, hminus]

theorem readScalar_minus (l : Limits) {c : Char} (h : c.isDigit = true) (cs : List Char) :
    readScalar l ('-' :: c :: cs) = readNumber l true (c :: cs) := by
  simp [readScalar, readWord_minus (ne_of_isDigit h (by decide))]

theorem exists_toDigits (n : Nat) :
    ∃ d ds, Nat.toDigits 10 n = d :: ds ∧ d.isDigit = true := by
  obtain ⟨d, ds, hds⟩ := List.exists_cons_of_ne_nil (Nat.toDigits_ne_nil (b := 10) (n := n))
  have hmem : d ∈ Nat.toDigits 10 n := by rw [hds]; exact List.mem_cons_self
  exact ⟨d, ds, hds, Nat.isDigit_of_mem_toDigits (by decide) (by decide) hmem⟩

theorem readScalar_int {l : Limits} {n : Int} (hlength : (Numeral.written n).length ≤ l.whole)
    (h : EndsNumber rest) :
    readScalar l (Numeral.written n ++ rest) = some (.int n, rest) := by
  cases n with
  | ofNat n =>
    obtain ⟨d, ds, hds, hd⟩ := exists_toDigits n
    have hnumber : readNumber l false (Nat.toDigits 10 n ++ rest) = some (.int n, rest) :=
      readNumber_toDigits (by simpa [Numeral.written] using hlength) h
    rw [Numeral.written, hds, List.cons_append, readScalar_digit l hd]
    rw [hds] at hnumber
    exact hnumber
  | negSucc n =>
    obtain ⟨d, ds, hds, hd⟩ := exists_toDigits (n + 1)
    have hnumber : readNumber l true (Nat.toDigits 10 (n + 1) ++ rest) =
        some (.int (.negSucc n), rest) :=
      readNumber_toDigits (by simpa [Numeral.written, Nat.add_comm] using hlength) h
    rw [Numeral.written, hds, List.cons_append, List.cons_append, readScalar_minus l hd]
    rw [hds] at hnumber
    exact hnumber

end GestureScript.Json
