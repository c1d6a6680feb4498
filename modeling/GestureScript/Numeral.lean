import GestureScript.Text.Blank
import GestureScript.Text.DecimalDigit

/-!
# Integers in decimal

Integers are read from a text in two ways. A token of the line language is plain:
a sign and ASCII digits. A loose numeral may stand between blanks, may use the
digits of any script, and may group its digits with single underscores. Neither
converts more than `digitLimit` digits, and no longer integer is written.
-/

set_option autoImplicit false

namespace GestureScript.Numeral

open Text

/-- The most digits that an integer is read from or written with. -/
def digitLimit : Nat := 4300

/-- What is said of a numeral with too many digits. -/
def tooLongMessage (digits : Nat) : String :=
  "Exceeds the limit (" ++ toString digitLimit ++
    " digits) for integer string conversion: value has " ++ toString digits ++
    " digits; use sys.set_int_max_str_digits() to increase the limit"

/-- A sign in front of a numeral is negative or not; the rest follows it. -/
def splitSign : List Char → Bool × List Char
  | '+' :: ds => (false, ds)
  | '-' :: ds => (true, ds)
  | ds => (false, ds)

def isDigits (ds : List Char) : Bool := !ds.isEmpty && ds.all Char.isDigit

def natural (ds : List Char) : Nat := Nat.ofDigitChars 10 ds 0

def signed (negative : Bool) (n : Nat) : Int := if negative then -(n : Int) else n

def written : Int → List Char
  | .ofNat n => Nat.toDigits 10 n
  | .negSucc n => '-' :: Nat.toDigits 10 (n + 1)

/-- Is the integer short enough to be turned into a text? -/
def isWritable (n : Int) : Bool := (Nat.toDigits 10 n.natAbs).length ≤ digitLimit

/-- What a token of the line language is as an integer. -/
inductive Reading where
  | notInteger
  | tooLong
  | value (n : Int)
  deriving DecidableEq, Repr

/-- Read a token: a sign, if any, and one or more ASCII digits. -/
def read (token : List Char) : Reading :=
  let (negative, ds) := splitSign token
  if !isDigits ds then .notInteger
  else if digitLimit < ds.length then .tooLong
  else .value (signed negative (natural ds))

/-- The blanks that may stand around a loose numeral: all but the four
separators that only the line language knows. -/
def isMargin (c : Char) : Bool := isBlank c && !(28 ≤ c.toNat && c.toNat ≤ 31)

def dropMargins (cs : List Char) : List Char :=
  ((cs.dropWhile isMargin).reverse.dropWhile isMargin).reverse

/-- The digits of a group, in which single underscores may stand between digits. -/
def grouped? : List Char → Option (List Char)
  | [] => none
  | [c] => if c.isDigit then some [c] else none
  | c :: '_' :: d :: cs => if c.isDigit then (grouped? (d :: cs)).map (c :: ·) else none
  | c :: cs => if c.isDigit then (grouped? cs).map (c :: ·) else none

/-- Read a loose numeral. -/
def readLoose? (cs : List Char) : Option Int :=
  let (negative, body) := splitSign (dropMargins (asciiDigits cs))
  match grouped? body with
  | none => none
  | some ds => if digitLimit < ds.length then none else some (signed negative (natural ds))

@[simp] theorem splitSign_minus (ds : List Char) : splitSign ('-' :: ds) = (true, ds) := rfl

@[simp] theorem splitSign_plus (ds : List Char) : splitSign ('+' :: ds) = (false, ds) := rfl

theorem natural_toDigits (n : Nat) : natural (Nat.toDigits 10 n) = n :=
  Nat.ofDigitChars_toDigits (by decide) (by decide)

end GestureScript.Numeral
