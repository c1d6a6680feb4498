/-!
# Kinds of text

A text is a sequence of characters. UTF-16 writes some characters in two units, and a text
from elsewhere may hold one of these halves without the other; such a text is no `String`,
and no encoding can write it. What takes or gives such texts is defined once, over any kind
of text.
-/

set_option autoImplicit false

namespace GestureScript

/-- One of the units that UTF-16 uses in pairs only. -/
structure Half where
  index : Fin 0x800
  deriving DecidableEq, Repr

def Half.unit (h : Half) : Nat := 0xd800 + h.index

inductive Symbol where
  | char (c : Char)
  | half (h : Half)
  deriving DecidableEq, Repr

def Symbol.char? : Symbol → Option Char
  | char c => some c
  | half _ => none

def Symbol.half? : Symbol → Option Half
  | char _ => none
  | half h => some h

/-- A kind of text. Its texts without halves are the strings. -/
class TextKind (τ : Type) where
  symbols : τ → List Symbol
  ofString : String → τ
  string? : τ → Option String
  string?_eq_some_iff : ∀ t s, string? t = some s ↔ t = ofString s

namespace TextKind

instance : TextKind String where
  symbols s := s.toList.map .char
  ofString s := s
  string? s := some s
  string?_eq_some_iff _ _ := Option.some_inj

@[simp] theorem symbols_string (s : String) : symbols s = s.toList.map .char := rfl

@[simp] theorem ofString_string (s : String) : (ofString s : String) = s := rfl

@[simp] theorem string?_string (s : String) : string? s = some s := rfl

variable {τ : Type} [TextKind τ]

@[simp] theorem string?_ofString (s : String) : string? (ofString s : τ) = some s :=
  (string?_eq_some_iff _ s).mpr rfl

end TextKind

/-- A text in which halves may stand alone. -/
structure LooseText where
  symbols : List Symbol
  deriving DecidableEq, Repr

namespace LooseText

def ofString (s : String) : LooseText := ⟨s.toList.map .char⟩

def chars? : List Symbol → Option (List Char)
  | [] => some []
  | .char c :: symbols => (chars? symbols).map (c :: ·)
  | .half _ :: _ => none

theorem chars?_eq_some_iff (symbols : List Symbol) (cs : List Char) :
    chars? symbols = some cs ↔ symbols = cs.map .char := by
  induction symbols generalizing cs with
  | nil => simp [chars?, eq_comm]
  | cons s symbols ih =>
    cases s with
    | half h => cases cs <;> simp [chars?]
    | char c =>
      cases cs with
      | nil => simp [chars?]
      | cons d cs => simpa [chars?, ih] using and_comm

instance : TextKind LooseText where
  symbols := symbols
  ofString := ofString
  string? t := (chars? t.symbols).map String.ofList
  string?_eq_some_iff t s := by
    obtain ⟨symbols⟩ := t
    rw [Option.map_eq_some_iff]
    constructor
    · rintro ⟨cs, hcs, rfl⟩
      rw [(chars?_eq_some_iff symbols cs).mp hcs, ofString, String.toList_ofList]
    · intro h
      exact ⟨s.toList, (chars?_eq_some_iff _ _).mpr (congrArg LooseText.symbols h),
        String.ofList_toList⟩

end LooseText

end GestureScript
