import GestureScript.Binary64.Shortest
import GestureScript.Json.Basic
import GestureScript.Numeral
import GestureScript.Text.Quoted

/-!
# Values in messages

How a message shows a value: texts in quotes, and the words for the values that
have no digits in capitals.
-/

set_option autoImplicit false

namespace GestureScript.Json

open Text

/-- A comma and a blank. -/
def listSeparator : List Char := [',', ' ']

mutual

def display : Json → List Char
  | .null => "None".toList
  | .bool b => if b then "True".toList else "False".toList
  | .int n => Numeral.written n
  | .real x => x.text Binary64.messageStyle
  | .text s => quoted s.toList
  | .array items => '[' :: displayItems items ++ [']']
  | .object entries => '\x7b' :: displayEntries entries ++ ['\x7d']

def displayItems : List Json → List Char
  | [] => []
  | [j] => display j
  | j :: js => display j ++ listSeparator ++ displayItems js

def displayEntries : List (String × Json) → List Char
  | [] => []
  | [(k, v)] => quoted k.toList ++ ':' :: ' ' :: display v
  | (k, v) :: es =>
    quoted k.toList ++ ':' :: ' ' :: display v ++ listSeparator ++ displayEntries es

end

end GestureScript.Json
