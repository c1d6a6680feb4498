import GestureScript.Text.Pieces

/-!
# Lines

A text is cut at every line break; a carriage return followed by a line feed is
one break. A break at the very end does not start another line.
-/

set_option autoImplicit false

namespace GestureScript.Text

/-- The characters that end a line. -/
def isBreak (c : Char) : Bool :=
  let n := c.toNat
  (10 ≤ n && n ≤ 13) || (28 ≤ n && n ≤ 30) || n == 0x85 || n == 0x2028 || n == 0x2029

def lines : List Char → List (List Char)
  | [] => []
  | '\r' :: '\n' :: cs => [] :: lines cs
  | c :: cs => if isBreak c then [] :: lines cs else consFirst c (lines cs)

@[simp] theorem lines_nil : lines [] = [] := rfl

end GestureScript.Text
