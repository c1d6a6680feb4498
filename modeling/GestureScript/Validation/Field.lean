import GestureScript.Json.Basic
import GestureScript.Validation.Basic

/-!
# Fields

A field is looked up under two spellings of its key; the camel-case spelling
wins. Complaints name the spelling that was found, and a missing field is
named by its camel-case spelling.
-/

set_option autoImplicit false

namespace GestureScript

structure Key where
  camel : String
  snake : String
  deriving DecidableEq, Repr

namespace Key

/-- A key of one spelling. -/
def plain (name : String) : Key := ⟨name, name⟩

variable {τ : Type}

/-- The spelling of a key among some entries, and its value there. -/
def find? (key : Key) (entries : List (String × Json τ)) : Option (String × Json τ) :=
  match Json.lookup? key.camel entries with
  | some v => some (key.camel, v)
  | none => (Json.lookup? key.snake entries).map (key.snake, ·)

variable {α : Type}

def required (key : Key) (read : Json τ → Checked α) (entries : List (String × Json τ)) :
    Checked α :=
  match key.find? entries with
  | some (name, v) => (read v).under (.key name)
  | none => .invalid [⟨.missing, [.key key.camel]⟩]

/-- A field that stands for a value when it is absent. -/
def withDefault (key : Key) (absent : α) (read : Json τ → Checked α)
    (entries : List (String × Json τ)) : Checked α :=
  match key.find? entries with
  | some (name, v) => (read v).under (.key name)
  | none => .valid absent

@[simp] theorem camel_plain (name : String) : (plain name).camel = name := rfl

@[simp] theorem snake_plain (name : String) : (plain name).snake = name := rfl

theorem find?_plain (name : String) (entries : List (String × Json τ)) :
    (plain name).find? entries = (Json.lookup? name entries).map (name, ·) := by
  unfold find?
  cases h : Json.lookup? name entries <;> simp [h]

end Key

end GestureScript
