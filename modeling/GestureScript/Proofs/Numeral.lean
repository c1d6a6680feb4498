import GestureScript.Numeral
import Mathlib.Data.Nat.Digits.Defs

/-!
# What integer tokens denote

A token denotes an integer when it is a sign, if any, and at most 4300 ASCII
digits, read by their places. Reading a token finds what it denotes, and tells the
numerals that are too long from what is no numeral at all. A loose numeral may be a token,
with blanks around it.
-/

set_option autoImplicit false

namespace GestureScript.Numeral

open Text

/-- The signs that may stand in front of digits, and whether they negate. -/
inductive Sign : List Char → Bool → Prop
  | none : Sign [] false
  | plus : Sign ['+'] false
  | minus : Sign ['-'] true

def IsDigits (ds : List Char) : Prop := ds ≠ [] ∧ ∀ c ∈ ds, '0' ≤ c ∧ c ≤ '9'

/-- The value of digits by their places, the last one in the place of the ones. -/
def placeValue (ds : List Char) : Nat :=
  Nat.ofDigits 10 (ds.reverse.map fun c => c.toNat - '0'.toNat)

/-- The token is a sign, if any, and digits. -/
def IsNumeral (token : List Char) : Prop :=
  ∃ sign negative ds, Sign sign negative ∧ IsDigits ds ∧ token = sign ++ ds

/-- The token is a numeral that is short enough, and `n` is its value. -/
def Denotes (token : List Char) (n : Int) : Prop :=
  ∃ sign negative ds, Sign sign negative ∧ IsDigits ds ∧ token = sign ++ ds ∧
    ds.length ≤ 4300 ∧ n = if negative then -(placeValue ds : Int) else placeValue ds

theorem isDigits_iff (ds : List Char) : isDigits ds = true ↔ IsDigits ds := by
  simp [isDigits, IsDigits, Char.isDigit, Char.le_def]

theorem natural_eq_placeValue (ds : List Char) : natural ds = placeValue ds := by
  induction ds with
  | nil => rfl
  | cons c ds ih =>
    rw [natural, Nat.ofDigitChars_cons, Nat.ofDigitChars_eq_ofDigitChars_zero, ← natural, ih,
      placeValue, placeValue, List.reverse_cons, List.map_append, Nat.ofDigits_append]
    simp [Nat.ofDigits_singleton, Nat.add_comm]

/-! ## Signs -/

theorem IsDigits.not_sign {c : Char} {ds : List Char} (h : IsDigits (c :: ds)) :
    c ≠ '+' ∧ c ≠ '-' := by
  have hlow : '0' ≤ c := (h.2 c (by simp)).1
  constructor <;> rintro rfl <;> exact absurd hlow (by decide)

theorem splitSign_append {sign ds : List Char} {negative : Bool} (hsign : Sign sign negative)
    (hds : IsDigits ds) : splitSign (sign ++ ds) = (negative, ds) := by
  cases hsign with
  | plus => exact splitSign_plus ds
  | minus => exact splitSign_minus ds
  | none =>
    obtain ⟨c, ds, rfl⟩ := List.exists_cons_of_ne_nil hds.1
    obtain ⟨hplus, hminus⟩ := hds.not_sign
    simp [splitSign, hplus, hminus]

/-- What is split off in front is a sign. -/
theorem exists_sign (token : List Char) :
    ∃ sign, Sign sign (splitSign token).1 ∧ token = sign ++ (splitSign token).2 := by
  unfold splitSign
  split
  · exact ⟨['+'], .plus, rfl⟩
  · exact ⟨['-'], .minus, rfl⟩
  · exact ⟨[], .none, rfl⟩

theorem isNumeral_iff (token : List Char) :
    IsNumeral token ↔ isDigits (splitSign token).2 = true := by
  rw [isDigits_iff]
  constructor
  · rintro ⟨sign, negative, ds, hsign, hds, rfl⟩
    rwa [splitSign_append hsign hds]
  · intro hds
    obtain ⟨sign, hsign, htoken⟩ := exists_sign token
    exact ⟨sign, _, _, hsign, hds, htoken⟩

/-! ## Reading -/

theorem read_eq_notInteger_iff (token : List Char) :
    read token = .notInteger ↔ ¬IsNumeral token := by
  rw [isNumeral_iff, read]
  by_cases hds : isDigits (splitSign token).2 = true
  · simp only [hds, Bool.not_true, Bool.false_eq_true, if_false, not_true_eq_false, iff_false]
    split <;> simp
  · simp [hds]

theorem read_eq_value_iff (token : List Char) (n : Int) :
    read token = .value n ↔ Denotes token n := by
  constructor
  · intro h
    obtain ⟨sign, hsign, htoken⟩ := exists_sign token
    simp only [read] at h
    split at h
    · contradiction
    next hds =>
      split at h
      · contradiction
      next hlength =>
        have hds' : IsDigits (splitSign token).2 := (isDigits_iff _).mp (by simpa using hds)
        refine ⟨sign, _, _, hsign, hds', htoken, Nat.le_of_not_lt hlength, ?_⟩
        rw [← natural_eq_placeValue]
        exact (Reading.value.inj h).symm
  · rintro ⟨sign, negative, ds, hsign, hds, rfl, hlength, rfl⟩
    have hlimit : ¬digitLimit < ds.length := Nat.not_lt.mpr hlength
    simp only [read, splitSign_append hsign hds, (isDigits_iff ds).mpr hds, hlimit,
      natural_eq_placeValue, signed]
    simp

/-! ## Writing -/

/-- An integer of at most 4300 digits. -/
def IsShort (n : Int) : Prop := (Nat.toDigits 10 n.natAbs).length ≤ 4300

instance : DecidablePred IsShort := fun _ => inferInstanceAs (Decidable (_ ≤ _))

theorem isWritable_iff (n : Int) : isWritable n = true ↔ IsShort n := decide_eq_true_iff

theorem isDigits_toDigits (n : Nat) : IsDigits (Nat.toDigits 10 n) := by
  refine ⟨Nat.toDigits_ne_nil, ?_⟩
  intro c hc
  have hdigit : c.isDigit = true := Nat.isDigit_of_mem_toDigits (by decide) (by decide) hc
  simpa [Char.isDigit, Char.le_def] using hdigit

/-- No zero stands in front of other digits. -/
theorem head_toDigits_ne {n : Nat} (h : n ≠ 0) {d : Char} {ds : List Char}
    (hds : Nat.toDigits 10 n = d :: ds) : d ≠ '0' := by
  induction n using Nat.strongRecOn generalizing ds with
  | ind n ih =>
    by_cases hsmall : n < 10
    · rw [Nat.toDigits_of_lt_base hsmall] at hds
      obtain ⟨rfl, -⟩ := List.cons.inj hds
      have hdigits : ∀ m < 10, m ≠ 0 → Nat.digitChar m ≠ '0' := by decide
      exact hdigits n hsmall h
    · obtain ⟨c, cs, hcs⟩ :=
        List.exists_cons_of_ne_nil (Nat.toDigits_ne_nil (b := 10) (n := n / 10))
      rw [Nat.toDigits_of_base_le (by decide) (by omega), hcs, List.cons_append] at hds
      obtain ⟨rfl, -⟩ := List.cons.inj hds
      exact ih (n / 10) (by omega) (by omega) hcs

theorem placeValue_toDigits (n : Nat) : placeValue (Nat.toDigits 10 n) = n := by
  rw [← natural_eq_placeValue, natural_toDigits]

theorem ofList_written (n : Int) : String.ofList (written n) = toString n := by
  cases n with
  | ofNat n => rfl
  | negSucc n =>
    rw [written, ← List.singleton_append, String.ofList_append]
    rfl

/-- The sign may come on top of the digits. -/
theorem IsShort.length_written_le {n : Int} (h : IsShort n) :
    (written n).length ≤ digitLimit + 1 := by
  cases n with
  | ofNat n => exact Nat.le_succ_of_le h
  | negSucc n => exact Nat.succ_le_succ h

theorem placeValue_lt {ds : List Char} (h : IsDigits ds) : placeValue ds < 10 ^ ds.length := by
  have hdigits : ∀ d ∈ ds.reverse.map (fun c => c.toNat - '0'.toNat), d < 10 := by
    intro d hd
    obtain ⟨c, hc, rfl⟩ := List.mem_map.mp hd
    have hhigh : c.toNat ≤ '9'.toNat := (h.2 c (List.mem_reverse.mp hc)).2
    have hnine : '9'.toNat = 57 := rfl
    have hzero : '0'.toNat = 48 := rfl
    omega
  simpa [placeValue] using Nat.ofDigits_lt_base_pow_length (by decide) hdigits

/-- Digits may begin with zeros, but what they stand for is no longer. -/
theorem IsDigits.isShort {ds : List Char} (h : IsDigits ds) (hlength : ds.length ≤ 4300)
    (negative : Bool) : IsShort (signed negative (placeValue ds)) := by
  have hsize : (signed negative (placeValue ds)).natAbs = placeValue ds := by
    cases negative <;> simp [signed]
  rw [IsShort, hsize]
  have hpos : 0 < ds.length := List.length_pos_iff.mpr h.1
  exact (Nat.toDigits_length 10 _ _ hpos (placeValue_lt h)).trans hlength

theorem Denotes.isShort {token : List Char} {n : Int} (h : Denotes token n) : IsShort n := by
  obtain ⟨sign, negative, ds, -, hds, -, hlength, rfl⟩ := h
  exact hds.isShort hlength negative

/-- A written integer denotes itself. -/
theorem denotes_written {n : Int} (h : IsShort n) : Denotes (written n) n := by
  cases n with
  | ofNat n =>
    refine ⟨[], false, Nat.toDigits 10 n, .none, isDigits_toDigits n, rfl, h, ?_⟩
    rw [placeValue_toDigits]
    rfl
  | negSucc n =>
    refine ⟨['-'], true, Nat.toDigits 10 (n + 1), .minus, isDigits_toDigits _, rfl, h, ?_⟩
    rw [placeValue_toDigits]
    rfl

/-! ## Tokens as loose numerals -/

theorem asciiDigit_of_ascii {c : Char} (h : c.toNat < 128) : asciiDigit c = c := by
  have hchars : ∀ n < 128, asciiDigit (Char.ofNat n) = Char.ofNat n := by decide +kernel
  have hc := hchars c.toNat h
  rwa [Char.ofNat_toNat] at hc

/-- No script has a blank among its digits. -/
theorem asciiDigit_of_isBlank {c : Char} (h : isBlank c = true) : asciiDigit c = c := by
  have hdigits : ∀ z ∈ zeros, ∀ d < 10, isBlank (Char.ofNat (z + d)) = false := by decide +kernel
  have hnone : digitValue? c = none := by
    rw [digitValue?, Option.map_eq_none_iff, List.find?_eq_none]
    intro z hz hrow
    obtain ⟨hlow, hhigh⟩ : z ≤ c.toNat ∧ c.toNat < z + 10 := by simpa using hrow
    have hblank := hdigits z hz (c.toNat - z) (by omega)
    rw [Nat.add_sub_cancel' hlow, Char.ofNat_toNat, h] at hblank
    cases hblank
  rw [asciiDigit, hnone, Option.elim_none]

theorem grouped?_of_isDigits {ds : List Char} (h : IsDigits ds) : grouped? ds = some ds := by
  obtain ⟨hne, hds⟩ := h
  induction ds with
  | nil => exact absurd rfl hne
  | cons c ds ih =>
    obtain ⟨hc, hds⟩ := List.forall_mem_cons.mp hds
    have hdigit : c.isDigit = true := by simpa [Char.isDigit, Char.le_def] using hc
    cases ds with
    | nil => simp [grouped?, hdigit]
    | cons d ds =>
      have hd : d ≠ '_' := by
        rintro rfl
        exact absurd (hds '_' (by simp)).2 (by decide)
      simp [grouped?, hdigit, hd, ih (by simp) hds]

theorem isDigits_of_grouped? {cs ds : List Char} (h : grouped? cs = some ds) : IsDigits ds := by
  have hcons : ∀ {c : Char} {rest : List Char}, c.isDigit = true →
      (∀ d ∈ rest, '0' ≤ d ∧ d ≤ '9') → IsDigits (c :: rest) := by
    intro c rest hc hrest
    have hdigit : '0' ≤ c ∧ c ≤ '9' := by simpa [Char.isDigit, Char.le_def] using hc
    exact ⟨by simp, List.forall_mem_cons.mpr ⟨hdigit, hrest⟩⟩
  fun_induction grouped? cs generalizing ds with
  | case1 => cases h
  | case2 c hc =>
    obtain rfl := Option.some.inj h
    exact hcons hc (by simp)
  | case3 => cases h
  | case4 c d cs hc ih =>
    obtain ⟨rest, hrest, rfl⟩ := Option.map_eq_some_iff.mp h
    exact hcons hc (ih hrest).2
  | case5 => cases h
  | case6 c cs _ _ hc ih =>
    obtain ⟨rest, hrest, rfl⟩ := Option.map_eq_some_iff.mp h
    exact hcons hc (ih hrest).2
  | case7 => cases h

theorem isShort_of_readLoose? {cs : List Char} {n : Int} (h : readLoose? cs = some n) :
    IsShort n := by
  unfold readLoose? at h
  dsimp only at h
  split at h
  · cases h
  next ds hds =>
    split at h
    · cases h
    next hlength =>
      obtain rfl := Option.some.inj h
      rw [natural_eq_placeValue]
      exact (isDigits_of_grouped? hds).isShort (Nat.le_of_not_lt hlength) _

theorem dropMargins_append {before core after : List Char}
    (hbefore : ∀ c ∈ before, isMargin c = true) (hne : core ≠ [])
    (hcore : ∀ c ∈ core, isMargin c = false) (hafter : ∀ c ∈ after, isMargin c = true) :
    dropMargins (before ++ core ++ after) = core := by
  have hkept : ∀ cs : List Char, cs ≠ [] → (∀ c ∈ cs, isMargin c = false) →
      ∀ rest, (cs ++ rest).dropWhile isMargin = cs ++ rest := by
    intro cs hcs hinner rest
    obtain ⟨c, cs, rfl⟩ := List.exists_cons_of_ne_nil hcs
    simp [hinner c (by simp)]
  have hback := hkept core.reverse (by simpa using hne) (by simpa using hcore) []
  rw [List.append_nil] at hback
  rw [dropMargins, List.append_assoc, List.dropWhile_append_of_pos hbefore, hkept core hne hcore,
    List.reverse_append, List.dropWhile_append_of_pos (by simpa using hafter), hback,
    List.reverse_reverse]

/-- The characters of a token are ASCII and no blanks. -/
theorem Denotes.forall_mem {token : List Char} {n : Int} (h : Denotes token n) :
    ∀ c ∈ token, asciiDigit c = c ∧ isMargin c = false := by
  obtain ⟨sign, negative, ds, hsign, hds, rfl, -, -⟩ := h
  intro c hc
  rcases List.mem_append.mp hc with hc | hc
  · cases hsign with
    | none => simp at hc
    | plus =>
      obtain rfl := List.mem_singleton.mp hc
      decide +kernel
    | minus =>
      obtain rfl := List.mem_singleton.mp hc
      decide +kernel
  · obtain ⟨hlow, hhigh⟩ := hds.2 c hc
    have hlow' : 48 ≤ c.toNat := hlow
    have hhigh' : c.toNat ≤ 57 := hhigh
    refine ⟨asciiDigit_of_ascii (by omega), ?_⟩
    simp [isMargin, isBlank]
    omega

/-- A token is read as a loose numeral too, and blanks may stand around it. -/
theorem readLoose?_of_denotes {token : List Char} {n : Int} (h : Denotes token n)
    {before after : List Char} (hbefore : ∀ c ∈ before, isMargin c = true)
    (hafter : ∀ c ∈ after, isMargin c = true) :
    readLoose? (before ++ token ++ after) = some n := by
  have hblank : ∀ c, isMargin c = true → asciiDigit c = c := by
    intro c hc
    exact asciiDigit_of_isBlank (Bool.and_eq_true_iff.mp hc).1
  have hsame : asciiDigits (before ++ token ++ after) = before ++ token ++ after := by
    refine (List.map_congr_left ?_).trans (List.map_id _)
    intro c hc
    rcases List.mem_append.mp hc with hc | hc
    · rcases List.mem_append.mp hc with hc | hc
      · exact hblank c (hbefore c hc)
      · exact (h.forall_mem c hc).1
    · exact hblank c (hafter c hc)
  have hinner : ∀ c ∈ token, isMargin c = false := fun c hc => (h.forall_mem c hc).2
  obtain ⟨sign, negative, ds, hsign, hds, rfl, hlength, rfl⟩ := h
  have hne : sign ++ ds ≠ [] := by simp [hds.1]
  have hlimit : ¬digitLimit < ds.length := Nat.not_lt.mpr hlength
  rw [readLoose?, hsame, dropMargins_append hbefore hne hinner hafter,
    splitSign_append hsign hds]
  simp only [grouped?_of_isDigits hds, if_neg hlimit, natural_eq_placeValue]
  rfl

end GestureScript.Numeral
