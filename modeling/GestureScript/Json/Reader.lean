import GestureScript.Binary64.Reader
import GestureScript.Json.Basic

/-!
# Reading JSON

Each reader takes the start of a text and returns what it read and the rest. The
bound on the nesting of calls is the length of the text, since every call takes
a character. Besides the standard, the names of the numbers that are not finite
are read; a number must not be too long in front of its point.
-/

set_option autoImplicit false

namespace GestureScript.Json

/-- What a text may hold. -/
structure Limits where
  /-- The most characters of a number up to its point, with its sign. -/
  whole : Nat
  /-- How deep arrays and objects that are not empty are nested at most. -/
  depth : Nat

def Limits.standard : Limits := ⟨Numeral.digitLimit, 200⟩

def isSpace (c : Char) : Bool := c == ' ' || c == '\t' || c == '\n' || c == '\r'

def skipSpace (cs : List Char) : List Char := cs.dropWhile isSpace

def hexDigit? (c : Char) : Option Nat :=
  let n := c.toNat
  if 48 ≤ n && n ≤ 57 then some (n - 48)
  else if 97 ≤ n && n ≤ 102 then some (n - 87)
  else if 65 ≤ n && n ≤ 70 then some (n - 55)
  else none

/-- The UTF-16 unit written by four hexadecimal digits. -/
def unit? (a b c d : Char) : Option Nat :=
  match hexDigit? a, hexDigit? b, hexDigit? c, hexDigit? d with
  | some a, some b, some c, some d => some (((a * 16 + b) * 16 + c) * 16 + d)
  | _, _, _, _ => none

def isHighUnit (n : Nat) : Bool := 0xd800 ≤ n && n < 0xdc00
def isLowUnit (n : Nat) : Bool := 0xdc00 ≤ n && n < 0xe000

def simpleEscape? (c : Char) : Option Char :=
  match c with
  | '"' => some '"'
  | '\\' => some '\\'
  | '/' => some '/'
  | 'b' => some (Char.ofNat 8)
  | 'f' => some (Char.ofNat 12)
  | 'n' => some '\n'
  | 'r' => some '\r'
  | 't' => some '\t'
  | _ => none

/-- Puts a character in front of a text that was read, if one was. -/
def consRead (c : Char) : Option (List Char × List Char) → Option (List Char × List Char)
  | some (s, rest) => some (c :: s, rest)
  | none => none

/-- The characters up to the closing quotation mark. A unit that is half of a pair
must be followed by the other half. -/
def readText : List Char → Option (List Char × List Char)
  | [] => none
  | '"' :: cs => some ([], cs)
  | '\\' :: 'u' :: a :: b :: c :: d :: cs =>
    match unit? a b c d with
    | none => none
    | some n =>
      if isHighUnit n then
        match cs with
        | '\\' :: 'u' :: e :: f :: g :: h :: cs =>
          match unit? e f g h with
          | none => none
          | some m =>
            if isLowUnit m then
              consRead (Char.ofNat (0x10000 + (n - 0xd800) * 0x400 + (m - 0xdc00))) (readText cs)
            else none
        | _ => none
      else if isLowUnit n then none
      else consRead (Char.ofNat n) (readText cs)
  | '\\' :: c :: cs =>
    match simpleEscape? c with
    | none => none
    | some e => consRead e (readText cs)
  | c :: cs => if c.toNat < 0x20 then none else consRead c (readText cs)

/-- A whole part has no zero in front of other digits. -/
def readWhole (cs : List Char) : Option (List Char × List Char) :=
  match cs with
  | '0' :: rest => some (['0'], rest)
  | _ =>
    match cs.takeWhile Char.isDigit with
    | [] => none
    | ds => some (ds, cs.dropWhile Char.isDigit)

/-- A point and at least one digit, or nothing. -/
def readFraction (cs : List Char) : Option (List Char × List Char) :=
  match cs with
  | '.' :: rest =>
    match rest.takeWhile Char.isDigit with
    | [] => none
    | ds => some (ds, rest.dropWhile Char.isDigit)
  | _ => some ([], cs)

/-- An exponent with at least one digit, or nothing. -/
def readExponent (cs : List Char) : Option (Option Int × List Char) :=
  match cs with
  | c :: rest =>
    if c == 'e' || c == 'E' then
      let (negative, body) := Numeral.splitSign rest
      match body.takeWhile Char.isDigit with
      | [] => none
      | ds =>
        some (some (Numeral.signed negative (Numeral.natural ds)), body.dropWhile Char.isDigit)
    else some (none, cs)
  | [] => some (none, cs)

def readNumber (l : Limits) (negative : Bool) (cs : List Char) : Option (Json × List Char) :=
  match readWhole cs with
  | none => none
  | some (whole, cs) =>
    if l.whole < negative.toNat + whole.length then none
    else match readFraction cs with
    | none => none
    | some (fraction, cs) =>
      match readExponent cs with
      | none => none
      | some (none, cs) =>
        if fraction.isEmpty then
          some (.int (Numeral.signed negative (Numeral.natural whole)), cs)
        else some (.real (Binary64.ofDigits negative whole fraction 0), cs)
      | some (some k, cs) => some (.real (Binary64.ofDigits negative whole fraction k), cs)

/-- The words that stand for a value. -/
def wordValues : List (List Char × Json) :=
  [("null".toList, .null), ("true".toList, .bool true), ("false".toList, .bool false),
   ("NaN".toList, .real .nan), ("Infinity".toList, .real (.infinite false)),
   ("-Infinity".toList, .real (.infinite true))]

def readWord (cs : List Char) : Option (Json × List Char) :=
  wordValues.findSome? fun (w, j) => if w.isPrefixOf cs then some (j, cs.drop w.length) else none

def readScalar (l : Limits) (cs : List Char) : Option (Json × List Char) :=
  match readWord cs with
  | some r => some r
  | none =>
    match cs with
    | '"' :: rest => (readText rest).map fun (s, rest) => (.text (String.ofList s), rest)
    | '-' :: rest => readNumber l true rest
    | _ => readNumber l false cs

mutual

def readValue (l : Limits) : Nat → List Char → Option (Json × List Char)
  | 0, _ => none
  | fuel + 1, cs =>
    match skipSpace cs with
    | '[' :: rest =>
      match skipSpace rest with
      | ']' :: rest => some (.array [], rest)
      | _ => (readItems l fuel rest).map fun (js, rest) => (.array js, rest)
    | '\x7b' :: rest =>
      match skipSpace rest with
      | '\x7d' :: rest => some (.object [], rest)
      | _ => (readEntries l fuel rest).map fun (es, rest) => (.object es, rest)
    | rest => readScalar l rest

/-- One item or more, up to the closing bracket. -/
def readItems (l : Limits) : Nat → List Char → Option (List Json × List Char)
  | 0, _ => none
  | fuel + 1, cs =>
    match readValue l fuel cs with
    | none => none
    | some (j, rest) =>
      match skipSpace rest with
      | ',' :: rest => (readItems l fuel rest).map fun (js, rest) => (j :: js, rest)
      | ']' :: rest => some ([j], rest)
      | _ => none

/-- One entry or more, up to the closing brace. -/
def readEntries (l : Limits) : Nat → List Char → Option (List (String × Json) × List Char)
  | 0, _ => none
  | fuel + 1, cs =>
    match skipSpace cs with
    | '"' :: rest =>
      match readText rest with
      | none => none
      | some (key, rest) =>
        match skipSpace rest with
        | ':' :: rest =>
          match readValue l fuel rest with
          | none => none
          | some (v, rest) =>
            match skipSpace rest with
            | ',' :: rest =>
              (readEntries l fuel rest).map fun (es, rest) => ((String.ofList key, v) :: es, rest)
            | '\x7d' :: rest => some ([(String.ofList key, v)], rest)
            | _ => none
        | _ => none
    | _ => none

end

/-- Read a text that holds one value and nothing else. -/
def read? (l : Limits) (cs : List Char) : Option Json :=
  match readValue l (2 * cs.length + 2) cs with
  | some (j, rest) => if (skipSpace rest).isEmpty && j.depth ≤ l.depth then some j else none
  | none => none

end GestureScript.Json
