import GestureScript.Console.Argument.Number
import GestureScript.Console.Argument.Token
import GestureScript.Text.Category
import GestureScript.Text.Quoted

/-!
# Cutting an expression into tokens

An expression stands on one line. The tokens come in order, with the break, if
there is one, that ends them early.
-/

set_option autoImplicit false

namespace GestureScript.Console.Argument.Lexer

open Text

/-! ## Quotations -/

/-- The letters in front of a quotation mark, the most of them first. -/
def letterGroups : List String := ["br", "rb", "fr", "rf", "b", "r", "u", "f", ""]

def isMark (c : Char) : Bool := c == '"' || c == '\x27'

/-- Does a text start with some letters, in any case, and a quotation mark? -/
def startsQuotation (cs : List Char) (letters : String) : Bool :=
  (cs.take letters.length).map Char.toLower == letters.toList &&
    (cs.drop letters.length).head?.any isMark

/-- The letters in front of a quotation mark at the start of a text. -/
def letters? (cs : List Char) : Option String := letterGroups.find? (startsQuotation cs)

/-- What follows the closing marks. A backslash takes the next character with it. -/
def afterMarks? (marks : List Char) : List Char → Option (List Char)
  | [] => none
  | c :: cs =>
    if c == '\\' then
      match cs with
      | [] => none
      | _ :: cs => afterMarks? marks cs
    else if marks.isPrefixOf (c :: cs) then some ((c :: cs).drop marks.length)
    else afterMarks? marks cs

/-- What follows a quotation that starts with its mark. -/
def afterQuotation (cs : List Char) : Except String (List Char) :=
  let mark := cs.head?.getD '"'
  let triple := [mark, mark, mark]
  if triple.isPrefixOf cs then
    match afterMarks? triple (cs.drop 3) with
    | some rest => .ok rest
    | none => .error "unterminated triple-quoted string literal (detected at line 1)"
  else
    match afterMarks? [mark] (cs.drop 1) with
    | some rest => .ok rest
    | none => .error "unterminated string literal (detected at line 1)"

/-! ## Names -/

/-- The code point of a character, with four digits or more. -/
def codePoint (c : Char) : String :=
  "U+" ++ String.ofList ((hex 4 c.toNat).map Char.toUpper)

def unprinted (c : Char) : String := "invalid non-printable character " ++ codePoint c

/-- The first character that does not fit into a name. -/
def misfit? : List Char → Option Char
  | [] => none
  | c :: cs => if startsIdentifier c then cs.find? (!isIdentifierChar ·) else some c

def nameFault? (cs : List Char) : Option String :=
  (misfit? cs).map fun c =>
    if isPrinted c then
      "invalid character '" ++ c.toString ++ "' (" ++ codePoint c ++ ")"
    else unprinted c

def nameKind (name : String) : TokenKind :=
  if Token.keywords.contains name then .sign else .name

/-! ## Signs -/

/-- The signs of more than one character, the longest first. -/
def longSigns : List String :=
  ["**=", "//=", ">>=", "<<=", "...", "!=", "%=", "&=", "**", "*=", "+=", "-=", "->", "//", "/=",
   ":=", "<<", "<=", "<>", "==", ">=", ">>", "@=", "^=", "|="]

/-- The length of the sign at the start of a text. -/
def signLength (cs : List Char) : Nat :=
  ((longSigns.find? fun s => s.toList.isPrefixOf cs).map (·.length)).getD 1

/-! ## Tokens -/

/-- A token at the start of a text: its kind, and what follows it. -/
def token (c : Char) (cs : List Char) : Except String (TokenKind × List Char) :=
  match letters? (c :: cs) with
  | some letters =>
    (afterQuotation ((c :: cs).drop letters.length)).map fun rest => (.quotation, rest)
  | none =>
    if Number.starts (c :: cs) then (Number.rest (c :: cs)).map fun rest => (.number, rest)
    else if isNameChar c then
      let name := (c :: cs).takeWhile isNameChar
      match nameFault? name with
      | some message => .error message
      | none => .ok (nameKind (String.ofList name), (c :: cs).dropWhile isNameChar)
    else if !isPrinted c then .error (unprinted c)
    else .ok (.sign, (c :: cs).drop (signLength (c :: cs)))

/-- At most so many brackets may be open. -/
def bracketLimit : Nat := 200

def closing : Char → Char
  | '(' => ')'
  | '[' => ']'
  | _ => '\x7d'

def opensBracket (c : Char) : Bool := c == '(' || c == '[' || c == '\x7b'

def closesBracket (c : Char) : Bool := c == ')' || c == ']' || c == '\x7d'

def inMarks (c : Char) : String := "'" ++ c.toString ++ "'"

/-- The brackets that are open behind a sign, the latest first. -/
def brackets (opened : List Char) (sign : List Char) : Except String (List Char) :=
  match sign with
  | [c] =>
    if opensBracket c then
      if bracketLimit ≤ opened.length then .error "too many nested parentheses"
      else .ok (c :: opened)
    else if closesBracket c then
      match opened with
      | [] => .error ("unmatched " ++ inMarks c)
      | b :: opened =>
        if closing b = c then .ok opened
        else
          .error ("closing parenthesis " ++ inMarks c ++
            " does not match opening parenthesis " ++ inMarks b)
    else .ok opened
  | _ => .ok opened

/-- Blanks between tokens. -/
def isGap (c : Char) : Bool := c == ' ' || c == '\t' || c == '\x0c'

/-- The break at the end of a text in which brackets are open. -/
def unclosed? (opened : List Char) : Option Break :=
  opened.head?.map fun b => ⟨inMarks b ++ " was never closed", false⟩

/-- A backslash would need another line to go on with. -/
def atBackslash : Break := ⟨"unexpected character after line continuation character", false⟩

/-- The tokens of a text in which brackets were opened before. Each takes at least one
character, so that `bound` characters are enough. -/
def tokensFrom (bound : Nat) (opened cs : List Char) : List Token × Option Break :=
  match bound with
  | 0 => ([], unclosed? opened)
  | bound + 1 =>
    match cs.dropWhile isGap with
    | [] => ([], unclosed? opened)
    | '#' :: _ => ([], unclosed? opened)
    | '\\' :: _ => ([], some atBackslash)
    | c :: cs =>
      match token c cs with
      | .error message => ([], some ⟨message, true⟩)
      | .ok (kind, rest) =>
        let text := (c :: cs).take (cs.length + 1 - rest.length)
        match if kind == .sign then brackets opened text else .ok opened with
        | .error message => ([], some ⟨message, true⟩)
        | .ok opened =>
          let (ts, b) := tokensFrom bound opened rest
          (⟨kind, String.ofList text, opened.length⟩ :: ts, b)

/-- The marks behind the last token. A text without tokens has no line to end. -/
def ends (ts : List Token) : List Token :=
  (if ts.isEmpty then [] else [⟨.lineEnd, "", 0⟩]) ++ [⟨.textEnd, "", 0⟩]

def tokens (cs : List Char) : List Token × Option Break :=
  match tokensFrom cs.length [] cs with
  | (ts, none) => (ts ++ ends ts, none)
  | broken => broken

end GestureScript.Console.Argument.Lexer
