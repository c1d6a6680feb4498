import GestureScript.Command.Grammar
import GestureScript.Proofs.Numeral
import GestureScript.Proofs.Text.Words

/-!
# The grammar of lines

`Means` gives the grammar of the line language: one rule for each kind of line,
said of the words that the line is spaced into. A line is read as a command
exactly when it means that command.
-/

set_option autoImplicit false

namespace GestureScript.Command

open Text

/-- How long a gesture takes when these words follow its arguments. A numeral that
is too long gives no duration. -/
inductive Lasts (standard : Int) : List (List Char) → Int → Prop
  | absent : 1 ≤ standard → Lasts standard [] standard
  | given {word more n} : Numeral.Denotes word n → 1 ≤ n → Lasts standard (word :: more) n
  | ignored {word more} : ¬Numeral.IsNumeral word → 1 ≤ standard →
      Lasts standard (word :: more) standard

inductive Means (settings : Settings) (line : List Char) : Command → Prop
  | tap {word a b more x y duration} :
      Spaced line (word :: a :: b :: more) → lower word = "tap".toList →
      Numeral.Denotes a x → Numeral.Denotes b y → Lasts settings.tapDuration more duration →
      Means settings line (.tap [⟨x, y⟩] duration)
  | swipe {word a b c d more x y x' y' duration} :
      Spaced line (word :: a :: b :: c :: d :: more) → lower word = "swipe".toList →
      Numeral.Denotes a x → Numeral.Denotes b y → Numeral.Denotes c x' → Numeral.Denotes d y' →
      Lasts settings.swipeDuration more duration →
      Means settings line (.swipe ⟨x, y⟩ ⟨x', y'⟩ duration)
  | scroll {word a more duration} (direction : Direction) :
      Spaced line (word :: a :: more) → lower word = "scroll".toList →
      lower a = direction.name.toList → Lasts settings.scrollDuration more duration →
      Means settings line (.scroll direction duration)
  | input {word text} :
      Typed line word text → lower word = "input".toList →
      Means settings line (.typeText (String.ofList text) false false)
  | wait {word a more n} :
      Spaced line (word :: a :: more) → lower word = "wait".toList →
      Numeral.Denotes a n → 0 ≤ n → Means settings line (.wait n)
  | press {word more} (button : Button) :
      Spaced line (word :: more) → lower word = button.name.toList →
      Means settings line (.press button)

/-! ## Keywords and arguments -/

theorem ofWord?_eq_some_iff (word : List Char) (keyword : Keyword) :
    Keyword.ofWord? word = some keyword ↔ lower word = keyword.name.toList := by
  constructor
  · intro h
    have hname := List.find?_some h
    exact (eq_of_beq hname).symm
  · intro h
    rw [Keyword.ofWord?, h]
    cases keyword with
    | press button => cases button <;> decide
    | _ => decide

theorem ofName?_eq_some_iff (word : List Char) (direction : Direction) :
    Direction.ofName? (String.ofList word) = some direction ↔ word = direction.name.toList := by
  constructor
  · intro h
    have hname : (direction.name == String.ofList word) = true :=
      List.find?_some (p := fun d : Direction => d.name == String.ofList word) h
    rw [eq_of_beq hname, String.toList_ofList]
  · rintro rfl
    rw [Direction.ofName?, String.ofList_toList]
    cases direction <;> decide

theorem integerArgument?_eq_some_iff (word : List Char) (n : Int) :
    integerArgument? word = some n ↔ Numeral.Denotes word n := by
  rw [← Numeral.read_eq_value_iff, integerArgument?]
  cases Numeral.read word <;> simp

theorem lasts_iff (standard : Int) (words : List (List Char)) (duration : Int) :
    Lasts standard words duration ↔
      durationArgument? standard words = some duration ∧ 1 ≤ duration := by
  constructor
  · rintro (hd | ⟨hword, hd⟩ | ⟨hword, hd⟩)
    · exact ⟨rfl, hd⟩
    · rw [durationArgument?, (Numeral.read_eq_value_iff _ _).mpr hword]
      exact ⟨rfl, hd⟩
    · rw [durationArgument?, (Numeral.read_eq_notInteger_iff _).mpr hword]
      exact ⟨rfl, hd⟩
  · rintro ⟨h, hd⟩
    cases words with
    | nil =>
      cases h
      exact .absent hd
    | cons word more =>
      rw [durationArgument?] at h
      split at h
      next n hread =>
        cases h
        exact .given ((Numeral.read_eq_value_iff _ _).mp hread) hd
      next hread =>
        cases h
        exact .ignored ((Numeral.read_eq_notInteger_iff _).mp hread) hd
      next => contradiction

/-! ## Arguments of each keyword -/

section

variable (settings : Settings) (rest : List Char) (words : List (List Char)) (c : Command)

theorem ofArguments?_tap : ofArguments? settings rest .tap words = some c ↔
    ∃ a b more x y d, words = a :: b :: more ∧ Numeral.Denotes a x ∧ Numeral.Denotes b y ∧
      Lasts settings.tapDuration more d ∧ .tap [⟨x, y⟩] d = c := by
  match words with
  | [] => simp [ofArguments?]
  | [_] => simp [ofArguments?]
  | a :: b :: more =>
    simp only [ofArguments?, Option.bind_eq_bind, Option.bind_eq_some_iff,
      integerArgument?_eq_some_iff, guarded_eq_some_iff]
    constructor
    · rintro ⟨x, hx, y, hy, d, hd, hformed, hc⟩
      exact ⟨a, b, more, x, y, d, rfl, hx, hy, (lasts_iff _ _ _).mpr ⟨hd, hformed.2⟩, hc⟩
    · rintro ⟨_, _, _, x, y, d, hwords, hx, hy, hd, hc⟩
      cases hwords
      obtain ⟨hd, hpos⟩ := (lasts_iff _ _ _).mp hd
      exact ⟨x, hx, y, hy, d, hd, ⟨by simp, hpos⟩, hc⟩

theorem ofArguments?_swipe : ofArguments? settings rest .swipe words = some c ↔
    ∃ a b a' b' more x y x' y' d, words = a :: b :: a' :: b' :: more ∧
      Numeral.Denotes a x ∧ Numeral.Denotes b y ∧ Numeral.Denotes a' x' ∧ Numeral.Denotes b' y' ∧
      Lasts settings.swipeDuration more d ∧ .swipe ⟨x, y⟩ ⟨x', y'⟩ d = c := by
  match words with
  | [] => simp [ofArguments?]
  | [_] => simp [ofArguments?]
  | [_, _] => simp [ofArguments?]
  | [_, _, _] => simp [ofArguments?]
  | a :: b :: a' :: b' :: more =>
    simp only [ofArguments?, Option.bind_eq_bind, Option.bind_eq_some_iff,
      integerArgument?_eq_some_iff, guarded_eq_some_iff]
    constructor
    · rintro ⟨x, hx, y, hy, x', hx', y', hy', d, hd, hpos, hc⟩
      exact ⟨a, b, a', b', more, x, y, x', y', d, rfl, hx, hy, hx', hy',
        (lasts_iff _ _ _).mpr ⟨hd, hpos⟩, hc⟩
    · rintro ⟨_, _, _, _, _, x, y, x', y', d, hwords, hx, hy, hx', hy', hd, hc⟩
      cases hwords
      obtain ⟨hd, hpos⟩ := (lasts_iff _ _ _).mp hd
      exact ⟨x, hx, y, hy, x', hx', y', hy', d, hd, hpos, hc⟩

theorem ofArguments?_scroll : ofArguments? settings rest .scroll words = some c ↔
    ∃ a more direction d, words = a :: more ∧ lower a = direction.name.toList ∧
      Lasts settings.scrollDuration more d ∧ .scroll direction d = c := by
  match words with
  | [] => simp [ofArguments?]
  | a :: more =>
    simp only [ofArguments?, Option.bind_eq_bind, Option.bind_eq_some_iff, ofName?_eq_some_iff,
      guarded_eq_some_iff]
    constructor
    · rintro ⟨direction, hname, d, hd, hpos, hc⟩
      exact ⟨a, more, direction, d, rfl, hname, (lasts_iff _ _ _).mpr ⟨hd, hpos⟩, hc⟩
    · rintro ⟨_, _, direction, d, hwords, hname, hd, hc⟩
      cases hwords
      obtain ⟨hd, hpos⟩ := (lasts_iff _ _ _).mp hd
      exact ⟨direction, hname, d, hd, hpos, hc⟩

theorem ofArguments?_input : ofArguments? settings rest .input words = some c ↔
    (∃ next more, words = next :: more) ∧ .typeText (String.ofList rest) false false = c := by
  match words with
  | [] => simp [ofArguments?]
  | next :: more => simp [ofArguments?]

theorem ofArguments?_wait : ofArguments? settings rest .wait words = some c ↔
    ∃ a more n, words = a :: more ∧ Numeral.Denotes a n ∧ 0 ≤ n ∧ .wait n = c := by
  match words with
  | [] => simp [ofArguments?]
  | a :: more =>
    simp only [ofArguments?, Option.bind_eq_bind, Option.bind_eq_some_iff,
      integerArgument?_eq_some_iff, guarded_eq_some_iff]
    constructor
    · rintro ⟨n, hn, hpos, hc⟩
      exact ⟨a, more, n, rfl, hn, hpos, hc⟩
    · rintro ⟨_, _, n, hwords, hn, hpos, hc⟩
      cases hwords
      exact ⟨n, hn, hpos, hc⟩

end

/-! ## Lines -/

/-- A line is read by its keyword. -/
theorem ofLine?_of_words (settings : Settings) (keyword : Keyword) {line word : List Char}
    {arguments : List (List Char)} (hwords : Spaced line (word :: arguments))
    (hword : lower word = keyword.name.toList) : ofLine? settings line =
      ofArguments? settings (afterFirstWord (trim line)) keyword arguments := by
  rw [ofLine?, hwords.words_eq]
  simp only [(ofWord?_eq_some_iff word keyword).mpr hword]

/-- A line that is a command has a keyword and its arguments. -/
theorem exists_keyword_of_ofLine? {settings : Settings} {line : List Char} {c : Command}
    (h : ofLine? settings line = some c) : ∃ word arguments keyword,
      Spaced line (word :: arguments) ∧ lower word = keyword.name.toList ∧
        ofArguments? settings (afterFirstWord (trim line)) keyword arguments = some c := by
  have hspaced := spaced_words line
  rw [ofLine?] at h
  split at h
  · contradiction
  next word arguments hwords =>
    rw [hwords] at hspaced
    split at h
    · contradiction
    next keyword hkeyword =>
      exact ⟨word, arguments, keyword, hspaced, (ofWord?_eq_some_iff _ _).mp hkeyword, h⟩

theorem Means.of_ofLine? {settings : Settings} {line : List Char} {c : Command}
    (h : ofLine? settings line = some c) : Means settings line c := by
  obtain ⟨word, arguments, keyword, hwords, hword, hc⟩ := exists_keyword_of_ofLine? h
  cases keyword with
  | tap =>
    obtain ⟨a, b, more, x, y, d, rfl, hx, hy, hd, rfl⟩ := (ofArguments?_tap _ _ _ _).mp hc
    exact .tap hwords hword hx hy hd
  | swipe =>
    obtain ⟨a, b, a', b', more, x, y, x', y', d, rfl, hx, hy, hx', hy', hd, rfl⟩ :=
      (ofArguments?_swipe _ _ _ _).mp hc
    exact .swipe hwords hword hx hy hx' hy' hd
  | scroll =>
    obtain ⟨a, more, direction, d, rfl, hname, hd, rfl⟩ := (ofArguments?_scroll _ _ _ _).mp hc
    exact .scroll direction hwords hword hname hd
  | input =>
    obtain ⟨⟨next, more, rfl⟩, rfl⟩ := (ofArguments?_input _ _ _ _).mp hc
    exact .input ((typed_iff _ _ _).mpr ⟨⟨next, more, hwords.words_eq⟩, rfl⟩) hword
  | wait =>
    obtain ⟨a, more, n, rfl, hn, hpos, rfl⟩ := (ofArguments?_wait _ _ _ _).mp hc
    exact .wait hwords hword hn hpos
  | press button =>
    cases hc
    exact .press button hwords hword

theorem Means.ofLine?_eq {settings : Settings} {line : List Char} {c : Command}
    (h : Means settings line c) : ofLine? settings line = some c := by
  cases h with
  | tap hwords hword hx hy hd =>
    rw [ofLine?_of_words settings .tap hwords hword, ofArguments?_tap]
    exact ⟨_, _, _, _, _, _, rfl, hx, hy, hd, rfl⟩
  | swipe hwords hword hx hy hx' hy' hd =>
    rw [ofLine?_of_words settings .swipe hwords hword, ofArguments?_swipe]
    exact ⟨_, _, _, _, _, _, _, _, _, _, rfl, hx, hy, hx', hy', hd, rfl⟩
  | scroll direction hwords hword hname hd =>
    rw [ofLine?_of_words settings .scroll hwords hword, ofArguments?_scroll]
    exact ⟨_, _, direction, _, rfl, hname, hd, rfl⟩
  | input htyped hword =>
    obtain ⟨⟨next, more, hwords⟩, hrest⟩ := htyped.words_eq
    rw [ofLine?_of_words settings .input ((words_eq_iff _ _).mp hwords) hword,
      ofArguments?_input, hrest]
    exact ⟨⟨next, more, rfl⟩, rfl⟩
  | wait hwords hword hn hpos =>
    rw [ofLine?_of_words settings .wait hwords hword, ofArguments?_wait]
    exact ⟨_, _, _, rfl, hn, hpos, rfl⟩
  | press button hwords hword =>
    exact ofLine?_of_words settings (.press button) hwords hword

/-- A line is read as the command that it means, and as none if it means none. -/
theorem ofLine?_eq_some_iff_means (settings : Settings) (line : List Char) (c : Command) :
    ofLine? settings line = some c ↔ Means settings line c :=
  ⟨Means.of_ofLine?, Means.ofLine?_eq⟩

end GestureScript.Command
