import GestureScript.Command.Basic
import GestureScript.Outcome.Fault

/-!
# The extent of a screen

A point is on the screen if both of its coordinates are below the size and not
negative. The first point that is not on the screen is complained of.
-/

set_option autoImplicit false

namespace GestureScript

structure Extent where
  width : Int
  height : Int
  deriving DecidableEq, Repr

namespace Extent

def contains (e : Extent) (p : Point) : Bool :=
  0 ≤ p.x && p.x < e.width && 0 ≤ p.y && p.y < e.height

/-- Is there a point on the screen? -/
def isPositive (e : Extent) : Bool := 0 < e.width && 0 < e.height

def firstOutside? (e : Extent) (points : List Point) : Option Point :=
  points.find? (fun p => !e.contains p)

/-- Are the numbers short enough for a complaint about the point? -/
def names (e : Extent) (p : Point) : Bool :=
  [p.x, p.y, e.width, e.height].all Numeral.isWritable

def complaint (e : Extent) (p : Point) : String :=
  String.ofList ("Coordinates (".toList ++ Numeral.written p.x ++ ", ".toList ++
    Numeral.written p.y ++ ") are outside screen bounds ".toList ++ Numeral.written e.width ++
    'x' :: Numeral.written e.height)

/-- The complaint about the first point that is outside. -/
def check (e : Extent) (points : List Point) : Except Fault (Option String) :=
  match e.firstOutside? points with
  | none => .ok none
  | some p => if e.names p then .ok (some (e.complaint p)) else .error .integerTooLong

theorem contains_iff (e : Extent) (p : Point) :
    e.contains p = true ↔ 0 ≤ p.x ∧ p.x < e.width ∧ 0 ≤ p.y ∧ p.y < e.height := by
  simp [contains, and_assoc]

theorem firstOutside?_eq_none_iff (e : Extent) (points : List Point) :
    e.firstOutside? points = none ↔ ∀ p ∈ points, e.contains p = true := by
  simp [firstOutside?]

end Extent

end GestureScript
