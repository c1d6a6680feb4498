import GestureScript.Text.Blank
import GestureScript.Text.Category.Table
import GestureScript.Text.Runs

/-!
# Categories of characters

What sort of character a character is, by the Unicode character database in its
version 13. From the category follow the characters that print, that words and
identifiers are made of, and that count when a letter is put in lower case.
-/

set_option autoImplicit false

namespace GestureScript.Text

inductive Category where
  /-- A letter in upper, lower or title case. -/
  | casedLetter
  | modifierLetter
  | otherLetter
  | nonspacingMark
  | spacingMark
  | enclosingMark
  | decimalDigit
  | letterNumber
  | otherNumber
  | connector
  | modifierSymbol
  | format
  /-- Any other mark or symbol. -/
  | visible
  /-- Controls, separators, and characters that are private or not assigned. -/
  | hidden
  deriving DecidableEq, Repr

namespace Category

/-- The category of a letter in the table. -/
def ofLetter : Char → Category
  | 'l' => .casedLetter
  | 'm' => .modifierLetter
  | 'o' => .otherLetter
  | 'n' => .nonspacingMark
  | 's' => .spacingMark
  | 'e' => .enclosingMark
  | 'd' => .decimalDigit
  | 'r' => .letterNumber
  | 'u' => .otherNumber
  | 'c' => .connector
  | 'k' => .modifierSymbol
  | 'f' => .format
  | 'v' => .visible
  | _ => .hidden

/-- The number that lower-case hexadecimal digits write. -/
def readHex (ds : List Char) : Nat :=
  ds.foldl (fun n c => 16 * n + (if c.isDigit then c.toNat - 48 else c.toNat - 87)) 0

def readRun : List Char → Nat × Category
  | [] => (0, .hidden)
  | letter :: start => (readHex start, ofLetter letter)

def runs : Runs Category := ((table.flatMap fun line => words line.toList).map readRun).toArray

end Category

def category (c : Char) : Category := (Category.runs.find? c.toNat).getD .hidden

def isAscii (c : Char) : Bool := c.toNat < 0x80

def isAsciiLetter (c : Char) : Bool := ('a' ≤ c && c ≤ 'z') || ('A' ≤ c && c ≤ 'Z')

/-- Is a character shown as it is? -/
def isPrinted (c : Char) : Bool :=
  if isAscii c then 0x20 ≤ c.toNat && c.toNat < 0x7f
  else category c != .hidden && category c != .format

/-- The characters of words: letters, digits and the underscore. -/
def isWordChar (c : Char) : Bool :=
  if isAscii c then isAsciiLetter c || c.isDigit || c == '_'
  else
    match category c with
    | .casedLetter | .modifierLetter | .otherLetter | .decimalDigit | .letterNumber
    | .otherNumber => true
    | _ => false

/-- Letters that have a compatible form for which there is no place in identifiers. -/
def isUnstable (n : Nat) : Bool :=
  n == 0x37a || n == 0x2e2f || (0xfc5e ≤ n && n ≤ 0xfc63) || n == 0xfdfa || n == 0xfdfb ||
    (0xfe70 ≤ n && n ≤ 0xfe7e && n % 2 == 0)

/-- As `isUnstable`, and letters that may only go on with an identifier. -/
def isUnstableAtStart (n : Nat) : Bool :=
  isUnstable n || n == 0xe33 || n == 0xeb3 || n == 0xff9e || n == 0xff9f

/-- May an identifier start with a character? -/
def startsIdentifier (c : Char) : Bool :=
  if isAscii c then isAsciiLetter c || c == '_'
  else
    let n := c.toNat
    [0x1885, 0x1886, 0x2118, 0x212e].contains n ||
      match category c with
      | .casedLetter | .modifierLetter | .otherLetter | .letterNumber => !isUnstableAtStart n
      | _ => false

/-- May an identifier go on with a character? -/
def isIdentifierChar (c : Char) : Bool :=
  if isAscii c then isAsciiLetter c || c.isDigit || c == '_'
  else
    let n := c.toNat
    [0xb7, 0x387, 0x19da, 0x2118, 0x212e].contains n || (0x1369 ≤ n && n ≤ 0x1371) ||
      match category c with
      | .casedLetter | .modifierLetter | .otherLetter | .letterNumber | .nonspacingMark
      | .spacingMark | .decimalDigit | .connector => !isUnstable n
      | _ => false

/-- Marks and signs that do not part the letters of a word: the case of what is on
their one side matters to the other. -/
def isCaseIgnorable (c : Char) : Bool :=
  let n := c.toNat
  if isAscii c then [0x27, 0x2e, 0x3a, 0x5e, 0x60].contains n
  else
    [0xb7, 0x387, 0x55f, 0x5f4, 0x2018, 0x2019, 0x2024, 0x2027, 0xfe13, 0xfe52, 0xfe55, 0xff07,
      0xff0e, 0xff1a].contains n ||
      match category c with
      | .nonspacingMark | .enclosingMark | .format | .modifierLetter | .modifierSymbol => true
      | _ => false

/-- Does a character have case, or the look of a letter that has? -/
def isCased (c : Char) : Bool :=
  let n := c.toNat
  if isAscii c then isAsciiLetter c
  else
    n == 0xaa || n == 0xba || (0x2160 ≤ n && n ≤ 0x217f) || (0x24b6 ≤ n && n ≤ 0x24e9) ||
      (0x1f130 ≤ n && n ≤ 0x1f149) || (0x1f150 ≤ n && n ≤ 0x1f169) ||
      (0x1f170 ≤ n && n ≤ 0x1f189) || category c == .casedLetter

end GestureScript.Text
