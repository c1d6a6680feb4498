import GestureScript.Text.Pieces

/-!
# Blank characters and words

Words are the maximal runs of characters that are not blank. `trim` drops the
blanks around a text, and `afterFirstWord` keeps what follows the first word
with its inner blanks as they are.
-/

set_option autoImplicit false

namespace GestureScript.Text

/-- The characters that separate words and may surround a line. -/
def isBlank (c : Char) : Bool :=
  let n := c.toNat
  (9 ≤ n && n ≤ 13) || (28 ≤ n && n ≤ 32) || n == 0x85 || n == 0xa0 || n == 0x1680 ||
    (0x2000 ≤ n && n ≤ 0x200a) || n == 0x2028 || n == 0x2029 || n == 0x202f || n == 0x205f ||
    n == 0x3000

def trimLeft (cs : List Char) : List Char := cs.dropWhile isBlank

def trimRight (cs : List Char) : List Char := (trimLeft cs.reverse).reverse

def trim (cs : List Char) : List Char := trimRight (trimLeft cs)

def startsWord : List Char → Bool
  | [] => false
  | c :: _ => !isBlank c

/-- The words of a text, in order. -/
def words : List Char → List (List Char)
  | [] => []
  | c :: cs =>
    if isBlank c then words cs
    else if startsWord cs then consFirst c (words cs)
    else [c] :: words cs

/-- What is left of a text after its first word and the blanks that follow it. -/
def afterFirstWord (cs : List Char) : List Char :=
  trimLeft ((trimLeft cs).dropWhile (fun c => !isBlank c))

@[simp] theorem words_nil : words [] = [] := rfl

theorem words_cons_blank {c : Char} (h : isBlank c = true) (cs : List Char) :
    words (c :: cs) = words cs := if_pos h

theorem words_cons_cons {c d : Char} (hc : isBlank c = false) (hd : isBlank d = false)
    (cs : List Char) : words (c :: d :: cs) = consFirst c (words (d :: cs)) := by
  rw [words, if_neg (by simp [hc]), if_pos (by simp [startsWord, hd])]

@[simp] theorem trimLeft_nil : trimLeft [] = [] := rfl

theorem trimLeft_cons_of_not_blank {c : Char} (h : isBlank c = false) (cs : List Char) :
    trimLeft (c :: cs) = c :: cs := by simp [trimLeft, h]

end GestureScript.Text
