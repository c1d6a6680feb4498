import GestureScript.Text.DecimalDigit

/-!
# Words of a command line

Every word is sorted before any of them is acted on. A word may name a flag, by
its spelling or by a beginning that fits one long spelling only; short flags may
stand together behind one dash. After the mark `--` no word names a flag.
-/

set_option autoImplicit false

namespace GestureScript.Console

/-- The spellings of flags, and what they stand for. -/
abbrev Spellings (φ : Type) := List (List Char × φ)

inductive Word (φ : Type) where
  | flags (fs : List φ)
  /-- A flag with a value or with letters that name none, although it takes neither. -/
  | misused
  | unknown
  | mark
  | value (s : String)

namespace Word

variable {φ : Type}

/-- Short flags behind one dash, the first of them given. -/
def cluster (table : Spellings φ) (flag : φ) : List Char → Word φ
  | [] => .flags [flag]
  | c :: rest =>
    match table.lookup ['-', c] with
    | none => .misused
    | some next =>
      match cluster table next rest with
      | .flags fs => .flags (flag :: fs)
      | word => word

/-- What stands before the first equals sign, and what stands behind it. -/
def splitValue (cs : List Char) : List Char × Option (List Char) :=
  (cs.takeWhile (· != '='),
    if cs.contains '=' then some ((cs.dropWhile (· != '=')).drop 1) else none)

def isDigit (c : Char) : Bool := (Text.digitValue? c).isSome

/-- A text without the line feed at its end. -/
def withoutFinalBreak (cs : List Char) : List Char :=
  if cs.getLast? == some '\n' then cs.dropLast else cs

/-- Is a word a minus sign and a number? It may end with a line feed. -/
def looksNegative (cs : List Char) : Bool :=
  match withoutFinalBreak cs with
  | '-' :: cs =>
    match cs.dropWhile isDigit with
    | [] => !cs.isEmpty
    | '.' :: fraction => !fraction.isEmpty && fraction.all isDigit
    | _ => false
  | _ => false

/-- A word that begins with a dash and names no flag. Negative numbers and words
with a space are values. -/
def unnamed (cs : List Char) : Word φ :=
  if looksNegative cs || cs.contains ' ' then .value (String.ofList cs) else .unknown

/-- A flag by one of its spellings. Behind a short spelling a value is taken for more
short flags; no long spelling has a value. -/
def spelled (table : Spellings φ) (flag : φ) (start : List Char) : Option (List Char) → Word φ
  | none => .flags [flag]
  | some behind =>
    if behind.isEmpty || "--".toList.isPrefixOf start then .misused else cluster table flag behind

/-- Read a word that begins with a dash and is longer; none if it is ambiguous. -/
def readDashed (table : Spellings φ) (cs : List Char) : Option (Word φ) :=
  let (start, behind) := splitValue cs
  match table.lookup start with
  | some flag => some (spelled table flag start behind)
  | none =>
    match cs with
    | '-' :: '-' :: _ =>
      match table.filter (fun entry => start.isPrefixOf entry.1) with
      | [] => some (unnamed cs)
      | [entry] => some (spelled table entry.2 start behind)
      | _ => none
    | a :: b :: rest =>
      match table.lookup [a, b] with
      | some flag => some (cluster table flag rest)
      | none => some (unnamed cs)
    | _ => some (unnamed cs)

def read (table : Spellings φ) (s : String) : Option (Word φ) :=
  match s.toList with
  | '-' :: c :: cs => readDashed table ('-' :: c :: cs)
  | _ => some (.value s)

/-- Sort all words of a command line; none if one of them is ambiguous. -/
def readAll (table : Spellings φ) : List String → Option (List (Word φ))
  | [] => some []
  | s :: ss =>
    if s = "--" then some (.mark :: ss.map .value)
    else match read table s, readAll table ss with
      | some word, some words => some (word :: words)
      | _, _ => none

@[simp] theorem readAll_nil (table : Spellings φ) : readAll table [] = some [] := rfl

/-- All words behind the mark are values. -/
@[simp] theorem readAll_mark (table : Spellings φ) (ss : List String) :
    readAll table ("--" :: ss) = some (.mark :: ss.map .value) := by simp [readAll]

end Word

end GestureScript.Console
