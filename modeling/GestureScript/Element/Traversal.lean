import GestureScript.Element.Basic

/-!
# Walking through elements

`walk` keeps the elements that are still to come on a stack; `preorder` is the
recursive order, parents first. They agree.
-/

set_option autoImplicit false

namespace GestureScript.Element

theorem sizeList_append (as bs : List Element) :
    sizeList (as ++ bs) = sizeList as + sizeList bs := by
  induction as with
  | nil => simp [sizeList]
  | cons a as ih => simp only [List.cons_append, sizeList, ih]; omega

/-- The elements on a stack and all that is in them. -/
def walkFrom : List Element → List Element
  | [] => []
  | node d cs :: stack => node d cs :: walkFrom (cs ++ stack)
termination_by stack => sizeList stack
decreasing_by simp only [sizeList_append, sizeList, size]; omega

def walk (e : Element) : List Element := walkFrom [e]

mutual

def preorder : Element → List Element
  | node d cs => node d cs :: preorderList cs

def preorderList : List Element → List Element
  | [] => []
  | e :: es => preorder e ++ preorderList es

end

theorem preorderList_append (as bs : List Element) :
    preorderList (as ++ bs) = preorderList as ++ preorderList bs := by
  induction as with
  | nil => simp [preorderList]
  | cons a as ih => simp [preorderList, ih]

theorem preorderList_eq (es : List Element) : preorderList es = es.flatMap preorder := by
  induction es with
  | nil => rfl
  | cons e es ih => rw [preorderList, ih, List.flatMap_cons]

theorem walkFrom_eq (stack : List Element) : walkFrom stack = preorderList stack := by
  fun_induction walkFrom stack with
  | case1 => rfl
  | case2 d cs stack ih =>
    rw [ih, preorderList_append, preorderList, preorder, List.cons_append]

@[simp] theorem walk_eq_preorder (e : Element) : e.walk = e.preorder := by
  simp [walk, walkFrom_eq, preorderList]

def findAll (p : Element → Bool) (e : Element) : List Element := e.walk.filter p

def count (e : Element) : Nat := e.walk.length

end GestureScript.Element
