import GestureScript.Console.Columns
import GestureScript.Text.Pieces

/-!
# Layout

How a text appears in a console: characters that would ring, step back or feed a
page are dropped, and a tab becomes one or more spaces up to the next tab stop.
-/

set_option autoImplicit false

namespace GestureScript.Console.Layout

open Text

/-- Bell, backspace, vertical tab, form feed and carriage return. -/
def isDropped (c : Char) : Bool :=
  c.toNat == 7 || c.toNat == 8 || c.toNat == 11 || c.toNat == 12 || c.toNat == 13

def visible (cs : List Char) : List Char := cs.filter fun c => !isDropped c

/-- Tab stops are this many columns apart. -/
def tabWidth : Nat := 8

/-- The spaces that are missing at a column up to the next tab stop, if it is none. -/
def blanksAt (column : Nat) : Nat := (tabWidth - column % tabWidth) % tabWidth

/-- Lay out the pieces between the tabs of a line; the first comes after some columns.
A piece is measured together with the space that its tab becomes. -/
def pieces (column : Nat) : List (List Char) → List Char
  | [] => []
  | [p] => p
  | p :: ps =>
    let column := column + columns (p ++ [' '])
    p ++ ' ' :: List.replicate (blanksAt column) ' ' ++ pieces (column + blanksAt column) ps

def line (cs : List Char) : List Char := pieces 0 (splitOn '\t' cs)

/-- Lay out lines, and end the last one. -/
def text (cs : List Char) : List Char :=
  (splitOn '\n' (visible cs)).flatMap fun l => line l ++ ['\n']

@[simp] theorem line_nil : line [] = [] := rfl

/-- Only tabs are laid out differently from what they are. -/
theorem line_of_no_tab {cs : List Char} (h : '\t' ∉ cs) : line cs = cs := by
  rw [line, splitOn_of_not_mem h, pieces]

/-- What follows a tab starts at a tab stop. -/
theorem column_add_blanksAt (column : Nat) : (column + blanksAt column) % tabWidth = 0 := by
  unfold blanksAt tabWidth; omega

end GestureScript.Console.Layout
