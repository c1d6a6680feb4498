import GestureScript.Console.Argument.Number
import GestureScript.Text.Category
import GestureScript.Text.Quoted

/-!
# Escapes in quotations

A backslash starts an escape, which stands for a character. Here it is found out
which escapes are wrong; what the others stand for is of no use.
-/

set_option autoImplicit false

namespace GestureScript.Console.Argument.Escape

/-- An escape from one place to the next that is wrong. -/
structure Fault where
  start : Nat
  stop : Nat
  reason : String
  deriving DecidableEq, Repr

def Fault.message (f : Fault) : String :=
  "(unicode error) 'unicodeescape' codec can't decode bytes in position " ++ toString f.start ++
    "-" ++ toString (f.stop - 1) ++ ": " ++ f.reason

/-- Characters beyond ASCII, and a backslash before one, are measured as their escapes. -/
def measured : List Char → List Char
  | [] => []
  | '\\' :: c :: cs =>
    if isAscii c then '\\' :: c :: measured cs
    else "\\u005c".toList ++ longEscape c ++ measured cs
  | c :: cs => if isAscii c then c :: measured cs else longEscape c ++ measured cs
where
  isAscii (c : Char) : Bool := c.toNat < 0x80
  longEscape (c : Char) : List Char := '\\' :: 'U' :: Text.hex 8 c.toNat

def hexValue (ds : List Char) : Nat := Text.Category.readHex (ds.map Char.toLower)

/-- An escape by a letter and so many hexadecimal digits. -/
def hexFault? (place count : Nat) (reason : String) (cs : List Char) : Option Fault :=
  let ds := (cs.take count).takeWhile Number.isHexDigit
  if ds.length < count then some ⟨place, place + 2 + ds.length, reason⟩
  else if 0x10ffff < hexValue ds then
    some ⟨place, place + 2 + count, "illegal Unicode character"⟩
  else none

/-- Names of characters are made of letters, digits, hyphens and blanks, two or more. -/
def looksLikeName (cs : List Char) : Bool :=
  2 ≤ cs.length && cs.all fun c => c.isAlphanum || c == '-' || c == ' '

/-- An escape by the name of a character. What looks like a name is taken for one. -/
def nameFault? (place : Nat) (cs : List Char) : Option Fault :=
  let malformed := "malformed \\N character escape"
  match cs with
  | [] => some ⟨place, place + 2, malformed⟩
  | c :: cs =>
    let name := cs.takeWhile (· != '\x7d')
    if c != '\x7b' then some ⟨place, place + 2, malformed⟩
    else if name.isEmpty || name.length = cs.length then
      some ⟨place, place + 3 + name.length, malformed⟩
    else if looksLikeName name then none
    else some ⟨place, place + 4 + name.length, "unknown Unicode character name"⟩

def letterFault? (place : Nat) (letter : Char) (cs : List Char) : Option Fault :=
  match letter with
  | 'x' => hexFault? place 2 "truncated \\xXX escape" cs
  | 'u' => hexFault? place 4 "truncated \\uXXXX escape" cs
  | 'U' => hexFault? place 8 "truncated \\UXXXXXXXX escape" cs
  | 'N' => nameFault? place cs
  | _ => none

/-- The first wrong escape of a measured text from a place on. -/
def fault? (place : Nat) : List Char → Option Fault
  | [] => none
  | '\\' :: letter :: cs =>
    match letterFault? place letter cs with
    | some f => some f
    | none => fault? (place + 2) cs
  | _ :: cs => fault? (place + 1) cs

/-- What is wrong with the escapes of a text. -/
def wrongInText? (cs : List Char) : Option String := (fault? 0 (measured cs)).map (·.message)

/-- The place of the first wrong escape of bytes: only hexadecimal ones can be wrong. -/
def wrongPlace? (place : Nat) : List Char → Option Nat
  | [] => none
  | '\\' :: letter :: cs =>
    if letter == 'x' && ((cs.take 2).takeWhile Number.isHexDigit).length < 2 then some place
    else wrongPlace? (place + 2) cs
  | _ :: cs => wrongPlace? (place + 1) cs

/-- What is wrong with the escapes of bytes. -/
def wrongInBytes? (cs : List Char) : Option String :=
  (wrongPlace? 0 cs).map fun place =>
    "(value error) invalid \\x escape at position " ++ toString place

end GestureScript.Console.Argument.Escape
