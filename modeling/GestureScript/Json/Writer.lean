import GestureScript.Binary64.Shortest
import GestureScript.Json.Basic
import GestureScript.Numeral
import GestureScript.Outcome.Fault
import GestureScript.Text.Quoted
import GestureScript.Text.Kind

/-!
# Writing JSON

A value is written on one line, or indented with one entry or item on each line.
A `Style` fixes the separators, and whether characters beyond ASCII are written
as escapes. Halves of characters can only be written as escapes.
-/

set_option autoImplicit false

namespace GestureScript.Json

structure Style where
  comma : List Char
  colon : List Char
  asciiOnly : Bool

/-- No blanks; all characters that need no escape stand for themselves. -/
def Style.compact : Style := ⟨[','], [':'], false⟩

/-- A blank after each separator, and printable ASCII characters only. -/
def Style.spaced : Style := ⟨[',', ' '], [':', ' '], true⟩

/-- Digits around the point from `1e-5` up to `1e16`, an exponent with its sign beyond. -/
def realStyle : Binary64.Style where
  leastPoint := -4
  greatestPoint := 16
  exponent := Binary64.exponentChars 1
  infinite := "null".toList
  nan := "null".toList

def unicodeEscape (n : Nat) : List Char := '\\' :: 'u' :: Text.hex 4 n

/-- The escape of a character by its UTF-16 units. -/
def unitEscapes (n : Nat) : List Char :=
  if n < 0x10000 then unicodeEscape n
  else
    unicodeEscape (0xd800 + (n - 0x10000) / 0x400) ++ unicodeEscape (0xdc00 + (n - 0x10000) % 0x400)

def textChar (asciiOnly : Bool) (c : Char) : List Char :=
  let n := c.toNat
  if c = '"' then ['\\', '"']
  else if c = '\\' then ['\\', '\\']
  else if n = 8 then ['\\', 'b']
  else if n = 9 then ['\\', 't']
  else if n = 10 then ['\\', 'n']
  else if n = 12 then ['\\', 'f']
  else if n = 13 then ['\\', 'r']
  else if n < 0x20 then unicodeEscape n
  else if asciiOnly && n > 0x7e then unitEscapes n
  else [c]

def symbolChars (asciiOnly : Bool) : Symbol → List Char
  | .char c => textChar asciiOnly c
  | .half h => unicodeEscape h.unit

variable {τ : Type} [TextKind τ]

def textChars (asciiOnly : Bool) (t : τ) : List Char :=
  '"' :: (TextKind.symbols t).flatMap (symbolChars asciiOnly) ++ ['"']

theorem textChars_string (asciiOnly : Bool) (s : String) :
    textChars asciiOnly s = '"' :: s.toList.flatMap (textChar asciiOnly) ++ ['"'] := by
  rw [textChars, TextKind.symbols_string, List.flatMap_map]
  rfl

def boolChars (b : Bool) : List Char := if b then "true".toList else "false".toList

def openBrace : Char := '\x7b'
def closeBrace : Char := '\x7d'

mutual

def chars (style : Style) : Json τ → List Char
  | .null => "null".toList
  | .bool b => boolChars b
  | .int n => Numeral.written n
  | .real x => x.text realStyle
  | .text s => textChars style.asciiOnly s
  | .array items => '[' :: itemChars style items ++ [']']
  | .object entries => openBrace :: entryChars style entries ++ [closeBrace]

def itemChars (style : Style) : List (Json τ) → List Char
  | [] => []
  | [j] => chars style j
  | j :: js => chars style j ++ style.comma ++ itemChars style js

def entryChars (style : Style) : List (String × Json τ) → List Char
  | [] => []
  | [(k, v)] => textChars style.asciiOnly k ++ style.colon ++ chars style v
  | (k, v) :: es =>
    textChars style.asciiOnly k ++ style.colon ++ chars style v ++ style.comma ++
      entryChars style es

end

mutual

/-- Are all integers short enough to be written? The compact writer writes any. -/
def isWritable : Json τ → Bool
  | .int n => Numeral.isWritable n
  | .array items => areWritable items
  | .object entries => haveWritable entries
  | .null | .bool _ | .real _ | .text _ => true

def areWritable : List (Json τ) → Bool
  | [] => true
  | j :: js => isWritable j && areWritable js

def haveWritable : List (String × Json τ) → Bool
  | [] => true
  | (_, v) :: es => isWritable v && haveWritable es

end

omit [TextKind τ] in
theorem areWritable_iff (js : List (Json τ)) :
    areWritable js = true ↔ ∀ j ∈ js, j.isWritable = true := by
  induction js with
  | nil => simp [areWritable]
  | cons j js ih => simp [areWritable, ih]

def compact (j : Json) : String := String.ofList (chars .compact j)

def spaced (j : Json τ) : String := String.ofList (chars .spaced j)

def newline (indent : Nat) : List Char := '\n' :: List.replicate indent ' '

mutual

/-- Written with two more blanks at each level of nesting. Empty values stay closed. -/
def indentedChars (indent : Nat) : Json → List Char
  | .array (j :: js) =>
    '[' :: newline (indent + 2) ++ indentedItems (indent + 2) (j :: js) ++ newline indent ++ [']']
  | .object (e :: es) =>
    openBrace :: newline (indent + 2) ++ indentedEntries (indent + 2) (e :: es) ++
      newline indent ++ [closeBrace]
  | .array [] => ['[', ']']
  | .object [] => [openBrace, closeBrace]
  | .null => "null".toList
  | .bool b => boolChars b
  | .int n => Numeral.written n
  | .real x => x.text realStyle
  | .text s => textChars false s

def indentedItems (indent : Nat) : List Json → List Char
  | [] => []
  | [j] => indentedChars indent j
  | j :: js => indentedChars indent j ++ ',' :: newline indent ++ indentedItems indent js

def indentedEntries (indent : Nat) : List (String × Json) → List Char
  | [] => []
  | [(k, v)] => textChars false k ++ ':' :: ' ' :: indentedChars indent v
  | (k, v) :: es =>
    textChars false k ++ ':' :: ' ' :: indentedChars indent v ++ ',' :: newline indent ++
      indentedEntries indent es

end

/-! ## Writing without escapes -/

mutual

/-- A value with its texts as strings. The first text with a half in it stands in the way. -/
def strings : Json τ → Except Fault Json
  | .null => .ok .null
  | .bool b => .ok (.bool b)
  | .int n => .ok (.int n)
  | .real x => .ok (.real x)
  | .text t => .text <$> (TextKind.string? t).elim (.error (.notEncodable (TextKind.symbols t))) .ok
  | .array items => .array <$> itemStrings items
  | .object entries => .object <$> entryStrings entries

def itemStrings : List (Json τ) → Except Fault (List Json)
  | [] => .ok []
  | j :: js => do
    let j ← strings j
    return j :: (← itemStrings js)

def entryStrings : List (String × Json τ) → Except Fault (List (String × Json))
  | [] => .ok []
  | (k, v) :: es => do
    let v ← strings v
    return (k, v) :: (← entryStrings es)

end

@[simp] theorem strings_ofString (s : String) : (ofString s : Json τ).strings = .ok (.text s) := by
  rw [ofString, strings, TextKind.string?_ofString]
  rfl

def write (j : Json τ) : Except Fault String := j.strings.map compact

mutual

theorem strings_eq (j : Json) : j.strings = .ok j := by
  match j with
  | .null | .bool _ | .int _ | .real _ => rw [strings]
  | .text s => rw [strings]; rfl
  | .array items => rw [strings, itemStrings_eq]; rfl
  | .object entries => rw [strings, entryStrings_eq]; rfl

theorem itemStrings_eq (items : List Json) : itemStrings items = .ok items := by
  match items with
  | [] => rw [itemStrings]
  | j :: js => rw [itemStrings, strings_eq j, itemStrings_eq js]; rfl

theorem entryStrings_eq (entries : List (String × Json)) : entryStrings entries = .ok entries := by
  match entries with
  | [] => rw [entryStrings]
  | (k, v) :: es => rw [entryStrings, strings_eq v, entryStrings_eq es]; rfl

end

@[simp] theorem write_eq (j : Json) : j.write = .ok j.compact := by
  rw [write, strings_eq]
  rfl

end GestureScript.Json
