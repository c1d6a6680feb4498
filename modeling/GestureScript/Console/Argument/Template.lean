import GestureScript.Console.Argument.Escape
import GestureScript.Console.Argument.Token
import GestureScript.Console.Argument.Lexer

/-!
# Templates

A template is a text with fields in braces. In a field stands an expression, which
may be followed by an equals sign, by the letter of a conversion, and by a format,
which is a template in turn. Two braces stand for one that starts no field.
-/

set_option autoImplicit false

namespace GestureScript.Console.Argument.Template

def missingBrace : String := "f-string: expecting '\x7d'"

/-! ## Text between fields -/

/-- What the last characters of a text say about the next one. -/
inductive Reading where
  | plain
  /-- The character is behind a backslash. -/
  | escaped
  /-- The character is behind the letter of an escape by name. -/
  | lettered
  /-- The character is in the braces of an escape by name. -/
  | naming
  deriving DecidableEq, Repr

/-- Some text, and what follows it. -/
structure Literal where
  text : List Char
  /-- Does it end with a brace that was doubled? -/
  isDoubled : Bool
  rest : List Char
  deriving DecidableEq, Repr

def Literal.push (c : Char) (l : Literal) : Literal := ⟨c :: l.text, l.isDoubled, l.rest⟩

def isBrace (c : Char) : Bool := c == '\x7b' || c == '\x7d'

/-- The text up to a brace. In a format no brace is doubled. -/
def literal (isRaw inFormat : Bool) (reading : Reading) : List Char → Except String Literal
  | [] => .ok ⟨[], false, []⟩
  | c :: cs =>
    let goOn (r : Reading) := (literal isRaw inFormat r cs).map (·.push c)
    match reading with
    | .lettered => goOn (if c == '\x7b' then .naming else .plain)
    | .naming => goOn (if c == '\x7d' then .plain else .naming)
    | .escaped => if c == 'N' then goOn .lettered else brace c cs (goOn .plain)
    | .plain => if c == '\\' && !isRaw then goOn .escaped else brace c cs (goOn .plain)
where
  brace (c : Char) (cs : List Char) (other : Except String Literal) : Except String Literal :=
    if !isBrace c then other
    else if inFormat then .ok ⟨[], false, c :: cs⟩
    else if cs.head? == some c then .ok ⟨[c], true, cs.drop 1⟩
    else if c == '\x7d' then .error "f-string: single '\x7d' is not allowed"
    else .ok ⟨[], false, c :: cs⟩

/-! ## Fields -/

/-- Comparisons that contain a character which would end an expression. -/
def isComparison (cs : List Char) : Bool :=
  ["!=", "==", "<=", ">="].any fun s => s.toList.isPrefixOf cs

def endsExpression (c : Char) : Bool := c == '!' || c == ':' || c == '\x7d' || c == '='

/-- The expression of a field, and what follows it. `marks` are those that end the
quotation it is in, `opened` are the brackets it is in, and the next `skipped`
characters belong to what is in front of them. -/
def expression (marks opened : List Char) (skipped : Nat) :
    List Char → Except String (List Char × List Char)
  | [] =>
    if !marks.isEmpty then .error "f-string: unterminated string"
    else match opened with
      | [] => .ok ([], [])
      | b :: _ => .error ("f-string: unmatched " ++ Lexer.inMarks b)
  | c :: cs =>
    let goOn (marks opened : List Char) (skipped : Nat) :=
      (expression marks opened skipped cs).map fun (e, rest) => (c :: e, rest)
    if 0 < skipped then goOn marks opened (skipped - 1)
    else if c == '\\' then .error "f-string expression part cannot include a backslash"
    else if !marks.isEmpty then
      if marks.isPrefixOf (c :: cs) then goOn [] opened (marks.length - 1)
      else goOn marks opened 0
    else if Lexer.isMark c then
      if [c, c, c].isPrefixOf (c :: cs) then goOn [c, c, c] opened 2 else goOn [c] opened 0
    else if Lexer.opensBracket c then
      if Lexer.bracketLimit ≤ opened.length then .error "f-string: too many nested parenthesis"
      else goOn [] (c :: opened) 0
    else if c == '#' then .error "f-string expression part cannot include '#'"
    else if opened.isEmpty && isComparison (c :: cs) then goOn [] [] 1
    else if opened.isEmpty && endsExpression c then .ok ([], c :: cs)
    else if Lexer.closesBracket c then
      match opened with
      | [] => .error ("f-string: unmatched " ++ Lexer.inMarks c)
      | b :: opened =>
        if Lexer.closing b = c then goOn [] opened 0
        else
          .error ("f-string: closing parenthesis " ++ Lexer.inMarks c ++
            " does not match opening parenthesis " ++ Lexer.inMarks b)
    else goOn [] opened 0

/-- What is wrong with the expression of a field, as far as `wrong?` can tell. -/
def checkExpression (wrong? : List Char → Option String) (e : List Char) :
    Except Complaint Unit :=
  if e.all fun c => c == ' ' || c == '\t' || c == '\n' || c == '\x0c' then
    .error (.here "f-string: empty expression not allowed")
  else (wrong? e).elim (.ok ()) fun message => .error (.inField message)

/-- What follows an equals sign and the blanks behind it. -/
def afterEquals : List Char → List Char
  | '=' :: cs => cs.dropWhile fun c => c == ' ' || '\t' ≤ c && c ≤ '\x0d'
  | cs => cs

/-- What follows a conversion. -/
def afterConversion : List Char → Except String (List Char)
  | '!' :: c :: cs =>
    if c == 's' || c == 'r' || c == 'a' then .ok cs
    else .error "f-string: invalid conversion character: expected 's', 'r', or 'a'"
  | '!' :: [] => .error missingBrace
  | cs => .ok cs

/-- What follows the brace that closes a field. -/
def afterBrace : List Char → Except String (List Char)
  | '\x7d' :: cs => .ok cs
  | _ => .error missingBrace

/-! ## The whole -/

/-- So deep can a format be nested in another. -/
def depthLimit : Nat := 2

/-- A template from a place on, and what follows it: nothing, or for a format the brace
that closes its field. Each step takes a character, so that `bound` of them are enough. -/
def fields (wrong? : List Char → Option String) (isRaw : Bool) (bound depth : Nat)
    (cs : List Char) : Except Complaint (List Char) :=
  match bound with
  | 0 => .ok cs
  | bound + 1 => do
    let l ← (literal isRaw (0 < depth) .plain cs).mapError .here
    if !isRaw then
      (Escape.wrongInText? l.text).elim (.ok ()) fun message => .error (.here message)
    if l.isDoubled then fields wrong? isRaw bound depth l.rest
    else
      match l.rest with
      | '\x7b' :: cs => do
        if depthLimit ≤ depth then .error (.here "f-string: expressions nested too deeply")
        let (e, rest) ← (expression [] [] 0 cs).mapError .here
        if rest.isEmpty then .error (.here missingBrace)
        checkExpression wrong? e
        let rest ← (afterConversion (afterEquals rest)).mapError .here
        let rest ←
          match rest with
          | ':' :: cs => fields wrong? isRaw bound (depth + 1) cs
          | rest => .ok rest
        let rest ← (afterBrace rest).mapError .here
        fields wrong? isRaw bound depth rest
      | rest => .ok rest

/-- What is wrong with a template. -/
def complaint? (wrong? : List Char → Option String) (isRaw : Bool) (cs : List Char) :
    Option Complaint :=
  match fields wrong? isRaw (cs.length + 1) 0 cs with
  | .error c => some c
  | .ok _ => none

end GestureScript.Console.Argument.Template
