/-!
# Numbers in expressions

Each function finds the end of a part of a number and gives what follows it, or
says what is wrong. Single underscores may stand between digits.
-/

set_option autoImplicit false

namespace GestureScript.Console.Argument

def isAsciiNameChar (c : Char) : Bool := c.isAlphanum || c == '_'

/-- May a name go on with a character? What is beyond ASCII is looked at later. -/
def isNameChar (c : Char) : Bool := isAsciiNameChar c || 0x80 ≤ c.toNat

namespace Number

/-- What follows digits. The error is what stands where a digit is missing. -/
def afterDigits (isDigit : Char → Bool) : List Char → Except (List Char) (List Char)
  | '_' :: d :: cs => if isDigit d then afterDigits isDigit cs else .error (d :: cs)
  | ['_'] => .error []
  | c :: cs => if isDigit c then afterDigits isDigit cs else .ok (c :: cs)
  | [] => .ok []

/-- Is there a word, and nothing that goes on with it? -/
def meetsWord (cs : List Char) (word : String) : Bool :=
  word.toList.isPrefixOf cs && !(cs.drop word.length).head?.any isNameChar

/-- A number may run into a keyword. Of some it is only asked how they start. -/
def meetsKeyword (cs : List Char) : Bool :=
  ["and", "else", "for", "or"].any (meetsWord cs) ||
    ["if", "in", "is"].any fun w => w.toList.isPrefixOf cs

def invalid (kind : String) : String := "invalid " ++ kind ++ " literal"

/-- A number must not run into a name. -/
def finish (kind : String) (rest : List Char) : Except String (List Char) :=
  if meetsKeyword rest || !rest.head?.any isAsciiNameChar then .ok rest
  else .error (invalid kind)

def decimalTail (cs : List Char) : Except String (List Char) :=
  (afterDigits Char.isDigit cs).mapError fun _ => invalid "decimal"

/-- After the exponent, or after a number without one. -/
def imaginary (cs : List Char) : Except String (List Char) :=
  match cs with
  | 'j' :: rest => finish "imaginary" rest
  | 'J' :: rest => finish "imaginary" rest
  | _ => finish "decimal" cs

def isSign (c : Char) : Bool := c == '+' || c == '-'

/-- An exponent, if there is one. -/
def exponent (cs : List Char) : Except String (List Char) :=
  match cs with
  | e :: rest =>
    if e == 'e' || e == 'E' then
      match rest with
      | c :: ds =>
        if isSign c then
          if ds.head?.any Char.isDigit then decimalTail ds >>= imaginary
          else .error (invalid "decimal")
        else if c.isDigit then decimalTail ds >>= imaginary
        else finish "decimal" cs
      | [] => finish "decimal" cs
    else imaginary cs
  | [] => imaginary cs

/-- What follows a point. -/
def fraction (cs : List Char) : Except String (List Char) :=
  match cs with
  | d :: ds => if d.isDigit then decimalTail ds >>= exponent else exponent cs
  | [] => exponent cs

/-- What follows the digits in front of a point, if there is a point. -/
def afterWhole (cs : List Char) : Except String (List Char) :=
  match cs with
  | '.' :: rest => fraction rest
  | _ => exponent cs

/-- Digits of another base than ten, after the letter of the base. -/
def based (kind : String) (isDigit : Char → Bool) (cs : List Char) : Except String (List Char) :=
  let wrong (rest : List Char) : String :=
    match rest.head?.filter Char.isDigit with
    | some d => "invalid digit '" ++ d.toString ++ "' in " ++ kind ++ " literal"
    | none => invalid kind
  match afterDigits isDigit ('_' :: (if cs.head? == some '_' then cs.drop 1 else cs)) with
  | .error rest => .error (wrong rest)
  | .ok rest => if rest.head?.any Char.isDigit then .error (wrong rest) else finish kind rest

def isHexDigit (c : Char) : Bool :=
  c.isDigit || ('a' ≤ c && c ≤ 'f') || ('A' ≤ c && c ≤ 'F')

def isOctalDigit (c : Char) : Bool := '0' ≤ c && c ≤ '7'

def isBinaryDigit (c : Char) : Bool := c == '0' || c == '1'

/-- What follows zeros at the start of a number. -/
def afterZeros : List Char → Except String (List Char)
  | '_' :: d :: cs =>
    if d == '0' then afterZeros cs
    else if d.isDigit then .ok (d :: cs)
    else .error (invalid "decimal")
  | ['_'] => .error (invalid "decimal")
  | '0' :: cs => afterZeros cs
  | cs => .ok cs

def leadingZeros : String :=
  "leading zeros in decimal integer literals are not permitted; " ++
    "use an 0o prefix for octal integers"

/-- May digits go on after zeros, since the number has a point, an exponent or is
imaginary? -/
def excusesZeros (cs : List Char) : Bool :=
  cs.head?.any fun c => c == '.' || c == 'e' || c == 'E' || c == 'j' || c == 'J'

/-- A decimal number after a zero. -/
def afterZero (cs : List Char) : Except String (List Char) := do
  match ← afterZeros cs with
  | [] => afterWhole []
  | d :: ds =>
    if d.isDigit then
      let rest ← decimalTail ds
      if excusesZeros rest then afterWhole rest else .error leadingZeros
    else afterWhole (d :: ds)

/-- What follows a number that starts with a digit, or with a point and a digit. -/
def rest : List Char → Except String (List Char)
  | '.' :: cs => fraction cs
  | '0' :: cs =>
    match cs with
    | [] => afterZero cs
    | b :: ds =>
      if b == 'x' || b == 'X' then based "hexadecimal" isHexDigit ds
      else if b == 'o' || b == 'O' then based "octal" isOctalDigit ds
      else if b == 'b' || b == 'B' then based "binary" isBinaryDigit ds
      else afterZero cs
  | _ :: cs => decimalTail cs >>= afterWhole
  | [] => .ok []

/-- Does a text start with a number? -/
def starts : List Char → Bool
  | '.' :: d :: _ => d.isDigit
  | d :: _ => d.isDigit
  | [] => false

end Number

end GestureScript.Console.Argument
