/-!
# Tokens

The arguments of a handler are an expression, and an expression is made of tokens:
names, numbers, texts in quotes, and signs. Keywords count as signs.
-/

set_option autoImplicit false

namespace GestureScript.Console.Argument

inductive TokenKind where
  | name
  | number
  | quotation
  | sign
  | lineEnd
  | textEnd
  deriving DecidableEq, Repr

structure Token where
  kind : TokenKind
  text : String
  /-- How many brackets are open behind the token. -/
  level : Nat
  deriving DecidableEq, Repr

namespace Token

def isSign (s : String) (t : Token) : Bool := t.kind == .sign && t.text == s

def keywords : List String :=
  ["False", "None", "True", "and", "as", "assert", "async", "await", "break", "class", "continue",
   "def", "del", "elif", "else", "except", "finally", "for", "from", "global", "if", "import", "in",
   "is", "lambda", "nonlocal", "not", "or", "pass", "raise", "return", "try", "while", "with",
   "yield"]

/-- Names that are keywords in some places only. -/
def softKeywords : List String := ["_", "case", "match"]

/-- The first letters of such a name are taken for it. -/
def isSoftKeyword (t : Token) : Bool :=
  t.kind == .name && softKeywords.any fun word => t.text.toList.isPrefixOf word.toList

end Token

/-- Where a text cannot be cut into tokens any further. -/
structure Break where
  message : String
  /-- Is it told even when the tokens before it do not fit? -/
  comesFirst : Bool
  deriving DecidableEq, Repr

/-- What is wrong with tokens that do not fit. -/
inductive Complaint where
  | here (message : String)
  /-- About an expression in a template, of which everything has been said. -/
  | inField (message : String)
  deriving DecidableEq, Repr

end GestureScript.Console.Argument
