/-!
# Commands

A command is one gesture, one text to type, one pause or one press of a system
button. Durations are in milliseconds. `Command.WellFormed` is what every reader
of commands guarantees. The text to type is a string, unless another kind of text
is named.
-/

set_option autoImplicit false

namespace GestureScript

structure Point where
  x : Int
  y : Int
  deriving DecidableEq, Repr

inductive Direction where
  | up
  | down
  | left
  | right
  deriving DecidableEq, Repr

inductive Button where
  | back
  | home
  | recents
  deriving DecidableEq, Repr

inductive Command (τ : Type := String) where
  | tap (points : List Point) (duration : Int)
  | swipe (start finish : Point) (duration : Int)
  | scroll (direction : Direction) (duration : Int)
  | typeText (text : τ) (commit clear : Bool)
  | wait (duration : Int)
  | press (button : Button)
  deriving DecidableEq, Repr

namespace Direction

def all : List Direction := [.up, .down, .left, .right]

def name : Direction → String
  | .up => "up"
  | .down => "down"
  | .left => "left"
  | .right => "right"

def label : Direction → String
  | .up => "UP"
  | .down => "DOWN"
  | .left => "LEFT"
  | .right => "RIGHT"

/-- The direction with a name. -/
def ofName? (s : String) : Option Direction := all.find? (fun d => d.name == s)

@[simp] theorem mem_all (d : Direction) : d ∈ all := by cases d <;> decide

theorem name_injective {a b : Direction} (h : a.name = b.name) : a = b := by
  cases a <;> cases b <;> first | rfl | exact absurd h (by decide)

end Direction

namespace Button

def all : List Button := [.back, .home, .recents]

def name : Button → String
  | .back => "back"
  | .home => "home"
  | .recents => "recents"

def constant : Button → String
  | .back => "BACK"
  | .home => "HOME"
  | .recents => "RECENTS"

def label : Button → String
  | .back => "Back"
  | .home => "Home"
  | .recents => "Recents"

/-- The button with a name. -/
def ofName? (s : String) : Option Button := all.find? (fun b => b.name == s)

@[simp] theorem mem_all (b : Button) : b ∈ all := by cases b <;> decide

theorem name_injective {a b : Button} (h : a.name = b.name) : a = b := by
  cases a <;> cases b <;> first | rfl | exact absurd h (by decide)

end Button

namespace Command

inductive Kind where
  | tap
  | swipe
  | scroll
  | typeText
  | wait
  | press
  deriving DecidableEq, Repr

def Kind.all : List Kind := [.tap, .swipe, .scroll, .typeText, .wait, .press]

def Kind.name : Kind → String
  | .tap => "tap"
  | .swipe => "swipe"
  | .scroll => "scroll"
  | .typeText => "type_text"
  | .wait => "wait"
  | .press => "navigation"

def Kind.ofName? (s : String) : Option Kind := Kind.all.find? (fun k => k.name == s)

variable {τ : Type}

def kind : Command τ → Kind
  | .tap .. => .tap
  | .swipe .. => .swipe
  | .scroll .. => .scroll
  | .typeText .. => .typeText
  | .wait _ => .wait
  | .press _ => .press

/-- A tap has a point, a gesture takes time, and no pause is negative. -/
def WellFormed : Command τ → Prop
  | .tap points duration => points ≠ [] ∧ 1 ≤ duration
  | .swipe _ _ duration => 1 ≤ duration
  | .scroll _ duration => 1 ≤ duration
  | .typeText .. => True
  | .wait duration => 0 ≤ duration
  | .press _ => True

instance (c : Command τ) : Decidable c.WellFormed := by
  cases c <;> unfold WellFormed <;> infer_instance

/-- A command, if it is well formed. -/
def guarded (c : Command) : Option Command := if c.WellFormed then some c else none

@[simp] theorem guarded_eq_some_iff (c d : Command) :
    c.guarded = some d ↔ c.WellFormed ∧ c = d := by
  unfold guarded; split <;> simp [*]

def defaultTapDuration : Int := 100
def defaultSwipeDuration : Int := 300
def defaultScrollDuration : Int := 500

end Command

end GestureScript
