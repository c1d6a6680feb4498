/-!
# Screen elements

An element shows something on the screen and contains other elements, in order.
A snapshot is all that one application shows at one moment. A transition is a
change of the application in the foreground. Times are in milliseconds. The texts
in them are strings, unless another kind of text is named.
-/

set_option autoImplicit false

namespace GestureScript

/-- A rectangle in pixels. The left and top edges belong to it, the others do not. -/
structure Bounds where
  left : Int
  top : Int
  right : Int
  bottom : Int
  deriving DecidableEq, Repr

namespace Bounds

def width (b : Bounds) : Int := b.right - b.left

def height (b : Bounds) : Int := b.bottom - b.top

/-- The middle, rounded toward the left and the top. -/
def center (b : Bounds) : Int × Int :=
  (b.left + b.width.fdiv 2, b.top + b.height.fdiv 2)

end Bounds

/-- What is known of an element besides the elements in it. -/
structure Element.Details (τ : Type := String) where
  id : Option τ
  className : Option τ
  packageName : Option τ
  text : Option τ
  contentDescription : Option τ
  viewIdResourceName : Option τ
  bounds : Option Bounds
  boundsInScreen : Option Bounds
  isClickable : Bool
  isEnabled : Bool
  isFocusable : Bool
  isFocused : Bool
  isScrollable : Bool
  isSelected : Bool
  isVisible : Bool
  timestamp : Int
  deriving DecidableEq, Repr

inductive Element (τ : Type := String) where
  | node (details : Element.Details τ) (children : List (Element τ))
  deriving Repr

namespace Element

variable {τ : Type}

def details : Element τ → Details τ
  | node d _ => d

def children : Element τ → List (Element τ)
  | node _ cs => cs

@[simp] theorem details_node (d : Details τ) (cs : List (Element τ)) :
    (node d cs).details = d := rfl

@[simp] theorem children_node (d : Details τ) (cs : List (Element τ)) :
    (node d cs).children = cs := rfl

section

variable [DecidableEq τ]

mutual

def decEq : (a b : Element τ) → Decidable (a = b)
  | node d cs, node d' cs' =>
    if h : d = d' then
      match decEqList cs cs' with
      | isTrue h' => isTrue (by rw [h, h'])
      | isFalse h' => isFalse (fun e => h' (by injection e))
    else isFalse (fun e => h (by injection e))

def decEqList : (as bs : List (Element τ)) → Decidable (as = bs)
  | [], [] => isTrue rfl
  | [], _ :: _ => isFalse (by simp)
  | _ :: _, [] => isFalse (by simp)
  | a :: as, b :: bs =>
    match decEq a b, decEqList as bs with
    | isTrue h, isTrue h' => isTrue (by rw [h, h'])
    | isFalse h, _ => isFalse (fun e => h (by injection e))
    | _, isFalse h => isFalse (fun e => h (by injection e))

end

instance : DecidableEq (Element τ) := decEq

end

/-- The details that an element has when nothing is known of it. -/
def Details.unknown (now : Int) : Details τ where
  id := none
  className := none
  packageName := none
  text := none
  contentDescription := none
  viewIdResourceName := none
  bounds := none
  boundsInScreen := none
  isClickable := false
  isEnabled := true
  isFocusable := false
  isFocused := false
  isScrollable := false
  isSelected := false
  isVisible := true
  timestamp := now

def isPresent (s : Option String) : Bool := s.any (fun s => !s.isEmpty)

/-- The first of text, description and resource name that is not empty. -/
def label (e : Element) : String :=
  let d := e.details
  (([d.text, d.contentDescription, d.viewIdResourceName].find? isPresent).join).getD ""

mutual

/-- The number of elements, the element itself included. -/
def size : Element → Nat
  | node _ cs => 1 + sizeList cs

def sizeList : List Element → Nat
  | [] => 0
  | e :: es => size e + sizeList es

end

/-- Are there bounds, which are written as a value of their own? -/
def Details.hasBounds (d : Details τ) : Bool := d.bounds.isSome || d.boundsInScreen.isSome

mutual

/-- How deep the values are nested that are written for an element. -/
def nesting : Element τ → Nat
  | node d cs => 1 + max (if d.hasBounds then 1 else 0) (nestingList cs)

def nestingList : List (Element τ) → Nat
  | [] => 0
  | e :: es => max (nesting e) (nestingList es)

end

end Element

structure Snapshot (τ : Type := String) where
  root : Element τ
  packageName : τ
  timestamp : Int
  deriving DecidableEq, Repr

structure Transition (τ : Type := String) where
  previous : Option τ
  current : τ
  timestamp : Int
  deriving DecidableEq, Repr

end GestureScript
