import GestureScript.Binary64.Basic
import GestureScript.Text.Kind

/-!
# JSON values

An object keeps its entries in the order in which they were written. Whole
numbers and binary numbers are kept apart, since only the former are exact. The
texts are strings, unless another kind of text is named.
-/

set_option autoImplicit false

namespace GestureScript

inductive Json (τ : Type := String) where
  | null
  | bool (b : Bool)
  | int (n : Int)
  | real (x : Binary64)
  | text (s : τ)
  | array (items : List (Json τ))
  | object (entries : List (String × Json τ))
  deriving Repr, Inhabited

namespace Json

variable {τ : Type}

/-- The value of a key. Of repeated keys the last one counts. -/
def lookup? (key : String) : List (String × Json τ) → Option (Json τ)
  | [] => none
  | (k, v) :: es =>
    match lookup? key es with
    | some w => some w
    | none => if k = key then some v else none

/-- A string as a text of any kind. -/
def ofString [TextKind τ] (s : String) : Json τ := .text (TextKind.ofString s)

@[simp] theorem ofString_eq (s : String) : (ofString s : Json) = .text s := rfl

/-- The name by which messages call the type of a value. -/
def typeName : Json → String
  | .null => "NoneType"
  | .bool _ => "bool"
  | .int _ => "int"
  | .real _ => "float"
  | .text _ => "str"
  | .array _ => "list"
  | .object _ => "dict"

mutual

/-- How deep values are nested in a value. Nothing is in a scalar or between empty
brackets. -/
def depth : Json → Nat
  | .array items => depthItems items
  | .object entries => depthEntries entries
  | _ => 0

def depthItems : List Json → Nat
  | [] => 0
  | j :: js => max (depth j + 1) (depthItems js)

def depthEntries : List (String × Json) → Nat
  | [] => 0
  | (_, v) :: es => max (depth v + 1) (depthEntries es)

end

/-- What is nested deeper than this is neither checked nor written. -/
def nestingLimit : Nat := 255

@[simp] theorem lookup?_nil (key : String) : lookup? key ([] : List (String × Json τ)) = none := rfl

theorem lookup?_append (key : String) (es fs : List (String × Json τ)) :
    lookup? key (es ++ fs) = (lookup? key fs).or (lookup? key es) := by
  induction es with
  | nil => simp
  | cons e es ih =>
    obtain ⟨k, v⟩ := e
    simp only [List.cons_append, lookup?, ih]
    cases lookup? key fs <;> rfl

end Json

end GestureScript
