import GestureScript.Json.Basic
import GestureScript.Numeral
import GestureScript.Text.Kind
import GestureScript.Validation.Basic

/-!
# Reading scalars

A scalar is accepted in the forms that carry its value without loss: a whole
number also as a number without fraction or as a numeral, a truth value also as
one of its usual names.
-/

set_option autoImplicit false

namespace GestureScript.Read

open Numeral

/-- Read a numeral that has no digits in vain: a minus sign, if any, and digits of
which the first is a zero only if it is the last. It may be too long whatever
follows its digits. -/
def plain (cs : List Char) : Numeral.Reading :=
  let (negative, body) := if cs.head? == some '-' then (true, cs.drop 1) else (false, cs)
  let digits := body.takeWhile Char.isDigit
  let isWhole := digits.length == body.length
  if digits.head? == some '0' then
    if digits.length == 1 && isWhole then .value 0 else .notInteger
  else if digitLimit < negative.toNat + digits.length then .tooLong
  else if isWhole && !digits.isEmpty then .value (signed negative (natural digits))
  else .notInteger

def isNonzeroDigit (c : Char) : Bool := '1' ≤ c && c ≤ '9'

/-- What follows the zeros and underscores at the start of a numeral; `last` is the
last of them, which is kept in front of a point and at the end. -/
def afterZeros? (last : Char) : List Char → Option (List Char)
  | [] => some [last]
  | c :: cs =>
    if c == '0' || c == '_' then afterZeros? c cs
    else if isNonzeroDigit c || c == '-' then some (c :: cs)
    else if c == '.' then some (last :: c :: cs)
    else none

/-- A numeral without the zeros at its start. A minus sign stays in front. -/
def dropZeros? : List Char → Option (List Char)
  | [] => none
  | '-' :: cs => if cs.head? == some '-' then none else (dropZeros? cs).map ('-' :: ·)
  | c :: cs =>
    if c == '0' then afterZeros? c cs
    else if isNonzeroDigit c then some (c :: cs)
    else none

def dropPlus? : List Char → Option (List Char)
  | '+' :: '-' :: _ => none
  | '+' :: cs => some cs
  | cs => some cs

/-- What stands in front of a point that only zeros follow. -/
def dropZeroFraction (cs : List Char) : List Char :=
  let fraction := (cs.dropWhile (· != '.')).drop 1
  if !fraction.isEmpty && fraction.all (· == '0') then cs.takeWhile (· != '.') else cs

/-- Are the underscores of a numeral single ones inside it? -/
def isGrouped (cs : List Char) : Bool :=
  let parts := Text.splitOn '_' cs
  parts.length != 1 && parts.all (!·.isEmpty)

/-- A numeral without what it has in vain; none if there is nothing of that kind. -/
def cleaned? (cs : List Char) : Option (List Char) := do
  let body ← dropPlus? (dropMargins cs)
  let body ← dropZeros? body
  let body := dropZeroFraction body
  if isGrouped body then some (body.filter (· != '_'))
  else if body.length == cs.length then none
  else some body

/-- An integer from a text. It may stand between blanks, and may have a plus sign,
leading zeros, a fraction of zeros, and underscores between its digits. -/
def integerText (s : String) : Checked Int :=
  match plain s.toList with
  | .value n => .valid n
  | .tooLong => .refuse .integerTooLong
  | .notInteger =>
    match (cleaned? s.toList).map plain with
    | some (.value n) => .valid n
    | some .tooLong => .refuse .integerTooLong
    | _ => .refuse .integerText

/-- An integer from a binary number without fraction, below `2 ^ 63` in size. -/
def integerReal (x : Binary64) : Checked Int :=
  if !x.isFinite then .refuse .notFinite
  else match x.toInt? with
    | none => .refuse .fractional
    | some n => if n.natAbs < Binary64.wordLimit then .valid n else .refuse .integerTooLong

variable {τ : Type} [TextKind τ]

/-- A text whose meaning counts must be a string. -/
def string (t : τ) : Checked String := (TextKind.string? t).elim (.refuse .textUnicode) .valid

def integer : Json τ → Checked Int
  | .int n => .valid n
  | .bool b => .valid b.toNat
  | .real x => integerReal x
  | .text t => (string t).andThen integerText
  | _ => .refuse .integerType

/-- An integer that is not below a bound. -/
def atLeast (bound : Int) (j : Json τ) : Checked Int :=
  (integer j).andThen fun n => if bound ≤ n then .valid n else .refuse .tooSmall

def truthName? (s : String) : Option Bool :=
  let name := String.ofList (s.toList.map Char.toLower)
  if ["1", "on", "t", "true", "y", "yes"].contains name then some true
  else if ["0", "off", "f", "false", "n", "no"].contains name then some false
  else none

def isWord64 (n : Int) : Bool := -Binary64.wordLimit ≤ n && n < Binary64.wordLimit

def truthInt (n : Int) : Checked Bool :=
  if n = 0 then .valid false
  else if n = 1 then .valid true
  else if isWord64 n then .refuse .boolText
  else .refuse .boolType

def truth : Json τ → Checked Bool
  | .bool b => .valid b
  | .int n => truthInt n
  | .real x =>
    match x.toInt? with
    | some n => truthInt n
    | none => .refuse .boolType
  | .text t => (string t).andThen fun s => (truthName? s).elim (.refuse .boolText) .valid
  | _ => .refuse .boolType

/-- Any text; halves of characters may be in it. -/
def text : Json τ → Checked τ
  | .text t => .valid t
  | _ => .refuse .textType

/-- Null, or what `read` accepts. -/
def optional {α : Type} (read : Json τ → Checked α) : Json τ → Checked (Option α)
  | .null => .valid none
  | j => (read j).map some

/-- One of a few values, by its name. -/
def choice {α : Type} (name : α → String) (values : List α) (g : Grievance) : Json τ → Checked α
  | .text t => (string t).andThen fun s =>
    (values.find? (fun v => name v == s)).elim (.refuse g) .valid
  | _ => .refuse g

/-- The items of an array, checked one by one from an index on. -/
def itemsFrom {α : Type} (read : Json τ → Checked α) (i : Nat) :
    List (Json τ) → Checked (List α)
  | [] => .valid []
  | j :: js => .both (· :: ·) ((read j).under (.index i)) (itemsFrom read (i + 1) js)

@[simp] theorem integer_int (n : Int) : integer (.int n : Json τ) = .valid n := rfl

@[simp] theorem truth_bool (b : Bool) : truth (.bool b : Json τ) = .valid b := rfl

omit [TextKind τ] in
@[simp] theorem text_text (t : τ) : text (.text t) = .valid t := rfl

@[simp] theorem string_ofString (s : String) : string (TextKind.ofString s : τ) = .valid s := by
  rw [string, TextKind.string?_ofString]
  rfl

end GestureScript.Read
