/-!
# Validation

A value that is checked is either accepted or comes with all complaints about
it, each with its place: the keys and indices that lead to it.
-/

set_option autoImplicit false

namespace GestureScript

/-- What can be wrong with a value. -/
inductive Grievance where
  | missing
  | modelType
  | tupleType
  | objectType
  | notObject
  | noTag
  | unknownTag
  | tooShort
  | integerType
  | integerText
  | integerTooLong
  | fractional
  | notFinite
  | tooSmall
  | boolType
  | boolText
  | textType
  /-- A text with halves of characters in it, where its meaning counts. -/
  | textUnicode
  | notChoice
  | notLiteral
  | notJson
  | nestedTooDeep
  deriving DecidableEq, Repr

inductive PathStep where
  | key (name : String)
  | index (i : Nat)
  deriving DecidableEq, Repr

structure Complaint where
  grievance : Grievance
  path : List PathStep
  deriving DecidableEq, Repr

/-- The complaint about a part, as a complaint about the whole. -/
def Complaint.under (step : PathStep) (c : Complaint) : Complaint :=
  ⟨c.grievance, step :: c.path⟩

inductive Checked (α : Type) where
  | valid (a : α)
  | invalid (complaints : List Complaint)
  deriving Repr

namespace Checked

variable {α β γ : Type}

/-- One complaint about the value itself. -/
def refuse (g : Grievance) : Checked α := .invalid [⟨g, []⟩]

def map (f : α → β) : Checked α → Checked β
  | .valid a => .valid (f a)
  | .invalid cs => .invalid cs

/-- Both parts are checked, whatever comes of the first. -/
def both (f : α → β → γ) : Checked α → Checked β → Checked γ
  | .valid a, .valid b => .valid (f a b)
  | .valid _, .invalid ds => .invalid ds
  | .invalid cs, .valid _ => .invalid cs
  | .invalid cs, .invalid ds => .invalid (cs ++ ds)

/-- A further check of an accepted value. -/
def andThen (x : Checked α) (f : α → Checked β) : Checked β :=
  match x with
  | .valid a => f a
  | .invalid cs => .invalid cs

def under (step : PathStep) : Checked α → Checked α
  | .valid a => .valid a
  | .invalid cs => .invalid (cs.map (Complaint.under step))

def toOption : Checked α → Option α
  | .valid a => some a
  | .invalid _ => none

/-- Supplies the next argument of a function whose arguments are checked. -/
instance : Applicative Checked where
  pure := .valid
  seq f x := both id f (x ())

@[simp] theorem map_valid (f : α → β) (a : α) : map f (.valid a) = .valid (f a) := rfl

@[simp] theorem both_valid (f : α → β → γ) (a : α) (b : β) :
    both f (.valid a) (.valid b) = .valid (f a b) := rfl

@[simp] theorem under_valid (step : PathStep) (a : α) : under step (.valid a) = .valid a := rfl

@[simp] theorem pure_eq (a : α) : (pure a : Checked α) = .valid a := rfl

@[simp] theorem seq_valid (f : α → β) (a : α) :
    (Checked.valid f <*> Checked.valid a) = .valid (f a) := rfl

@[simp] theorem functor_map_valid (f : α → β) (a : α) : f <$> Checked.valid a = .valid (f a) := rfl

@[simp] theorem map_eq_valid_iff (f : α → β) (x : Checked α) (b : β) :
    x.map f = .valid b ↔ ∃ a, x = .valid a ∧ f a = b := by cases x <;> simp [map]

end Checked

end GestureScript
