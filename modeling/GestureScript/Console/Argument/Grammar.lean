import GestureScript.Console.Argument.Pattern
import GestureScript.Console.Argument.Quotation

/-!
# The grammar of expressions

Square brackets have no place in it, since tags are made of them. The rules whose
names start with `wrong` describe what is often got wrong, and most of them are looked
for only when there is something to complain of.
-/

set_option autoImplicit false

namespace GestureScript.Console.Argument

inductive Rule where
  | whole
  | expressions
  | expression
  | plainExpression
  | yielded
  | starExpressions
  | starExpression
  | starNamedExpressions
  | starNamedExpression
  | assignment
  | namedExpression
  | unnamedExpression
  | disjunction
  | conjunction
  | inversion
  | comparison
  | bitOr
  | bitXor
  | bitAnd
  | shift
  | sum
  | term
  | factor
  | power
  | awaited
  | primary
  | suffix
  | atom
  | quotations
  | tuple
  | group
  | generator
  | set
  | setOf
  | dict
  | dictOf
  | pairs
  | pairOrSpread
  | pair
  | clauses
  | clause
  | arguments
  | argumentList
  | wholeList
  | argument
  | namedArguments
  | starredExpression
  | namedOrStarred
  | namedOrSpread
  | targets
  | targetTuple
  | target
  | plainTarget
  | targetAtom
  | targetPrimary
  | lambda
  | parameters
  | parameterList
  | bareBeforeSlash
  | defaultedBeforeSlash
  | starredParameters
  | parameterDictionary
  | bareParameter
  | defaultedParameter
  | anyParameter
  | wrongExpression
  | wrongStatement
  | wrongNaming
  | wrongComprehension
  | wrongDictOf
  | wrongGroup
  | wrongPairs
  | wrongPair
  | wrongTarget
  | wrongArguments
  | wrongNamedArgument
  | wrongParameters
  | wrongStarredParameters
  deriving DecidableEq, Repr

namespace Rule

/-- One pattern or more. -/
def atLeastOne (p : Pattern Rule) : Pattern Rule := .all [p, .many p]

/-- One pattern or more, with commas in between. -/
def separated (p : Pattern Rule) : Pattern Rule := .all [p, .many (.all [.sign ",", p])]

def maybeComma : Pattern Rule := .optional (.sign ",")

/-- The trees as they were found. -/
def same (ps : List (Pattern Rule)) : Alternative Rule := ⟨.all ps, .trees⟩

def make (shape : Shape) (ps : List (Pattern Rule)) : Alternative Rule :=
  ⟨.all ps, fun ts => .trees [.node shape ts]⟩

def complain (message : String) (ps : List (Pattern Rule)) : Alternative Rule :=
  ⟨.all ps, fun _ => .complaint (.here message)⟩

/-- A complaint that depends on what was found. -/
def judge (message? : List Tree → Option String) (ps : List (Pattern Rule)) : Alternative Rule :=
  ⟨.all ps, fun ts => (message? ts).elim .nothing fun message => .complaint (.here message)⟩

/-- Only for complaints. -/
def wrong (r : Rule) : Alternative Rule := same [.explained (.rule r)]

def rules (rs : List Rule) : Alternative Rule := same (rs.map .rule)

/-- Signs and operands, from the left to the right. -/
def joined : Tree → List Tree → Tree
  | t, .leaf mark :: u :: rest => joined (.node (.binary mark.text) [t, u]) rest
  | t, _ => t

/-- Operands with one of some signs in between. -/
def operation (operand : Rule) (signs : List String) : Alternative Rule :=
  ⟨.all [.rule operand, .many (.any (signs.map fun s => .all [.kept s, .rule operand]))], fun ts =>
    match ts with
    | t :: rest => .trees [joined t rest]
    | [] => .nothing⟩

/-- One operand, or several with a word in between. -/
def logical (operand : Rule) (word : String) : Alternative Rule :=
  ⟨.all [.rule operand, .many (.all [.sign word, .rule operand])], fun ts =>
    match ts with
    | [t] => .trees [t]
    | ts => .trees [.node .logical ts]⟩

def comparisonSigns : List (List (Pattern Rule)) :=
  [[.kept "=="], [.kept "!="], [.kept "<="], [.kept "<"], [.kept ">="], [.kept ">"],
   [.kept "not", .sign "in"], [.kept "in"], [.kept "is", .sign "not"], [.kept "is"]]

def compared : List Tree → Built
  | [t] => .trees [t]
  | ts =>
    match ts with
    | _ :: .leaf mark :: _ => .trees [.node (.comparison mark.text) ts]
    | _ => .trees ts

/-- An expression and what follows it: the names of members and arguments. -/
def withSuffixes : List Tree → Built
  | [] => .nothing
  | t :: suffixes =>
    .trees [suffixes.foldl (fun base suffix =>
      match suffix with
      | .node shape parts => .node shape (base :: parts)
      | .leaf _ => base) t]

def tokenOf? : Tree → Option Token
  | .leaf t => some t
  | .node .. => none

/-- Quotations. Expressions in templates are left to `wrong?`. -/
def quoted (wrong? : List Char → Option String) (ts : List Tree) : Built :=
  let qs := (ts.filterMap tokenOf?).map Quotation.ofToken
  match Quotation.complaintIn? wrong? none qs with
  | some complaint => .complaint complaint
  | none => .trees [.node (if qs.any (·.isTemplate) then .template else .quotations) ts]

/-! ## Complaints -/

def useComparison : String := "invalid syntax. Maybe you meant '==' or ':=' instead of '='?"

def parenthesizeGenerator : String := "Generator expression must be parenthesized"

def starredValue : String := "cannot use a starred expression in a dictionary value"

def missingValue : String := "expression expected after dictionary key and ':'"

def forgottenComma : List Tree → Option String
  | t :: _ => if t.isOldStatement then none else some "invalid syntax. Perhaps you forgot a comma?"
  | [] => none

def oldStatement : List Tree → Option String
  | t :: _ =>
    if t.isOldStatement then
      t.name?.map fun name =>
        "Missing parentheses in call to '" ++ name ++ "'. Did you mean " ++ name ++ "(...)?"
    else none
  | [] => none

def about (before after : String) : List Tree → Option String
  | t :: _ => some (before ++ t.describe ++ after)
  | [] => none

def isNamed : Tree → Bool
  | .node .keyword _ => true
  | .node .keywords _ => true
  | _ => false

/-- More than one argument in front of clauses. -/
def crowdedGenerator (ts : List Tree) : Option String :=
  let isArgument : Tree → Bool
    | .node .clause _ => false
    | t => !isNamed t
  if 2 ≤ (ts.filter isArgument).length then some parenthesizeGenerator else none

/-- Arguments behind a list of others that ends with named ones. -/
def lateArgument : List Tree → Option String
  | .node _ first :: _ =>
    let isSpread : Tree → Bool
      | .node .keywords _ => true
      | _ => false
    some (if first.any isSpread then "positional argument follows keyword argument unpacking"
      else "positional argument follows keyword argument")
  | _ => none

def wrongWord : List Tree → Option String
  | .leaf t :: _ => some ("cannot assign to " ++ t.text)
  | _ => none

def badTarget (ts : List Tree) : Option String :=
  (Tree.nonTargetIn? ts).map fun t => "cannot assign to " ++ t.describe

/-! ## Rules -/

def alternatives (wrong? : List Char → Option String) : Rule → List (Alternative Rule)
  | whole => [same [.rule expressions, .many .lineEnd, .textEnd]]
  | expressions =>
    [make .tuple [.rule expression, atLeastOne (.all [.sign ",", .rule expression]), maybeComma],
     make .tuple [.rule expression, .sign ","],
     rules [expression]]
  | expression =>
    [wrong wrongExpression,
     wrong wrongStatement,
     make .conditional [.rule disjunction, .sign "if", .rule disjunction, .sign "else",
       .rule expression],
     rules [disjunction],
     rules [lambda]]
  | plainExpression =>
    [make .conditional [.plainly (.all [.rule disjunction, .sign "if", .rule disjunction,
       .sign "else", .rule expression])],
     same [.plainly (.rule disjunction)],
     same [.plainly (.rule lambda)]]
  | yielded =>
    [make .yield [.sign "yield", .sign "from", .rule expression],
     make .yield [.sign "yield", .optional (.rule starExpressions)]]
  | starExpressions =>
    [make .tuple [.rule starExpression, atLeastOne (.all [.sign ",", .rule starExpression]),
       maybeComma],
     make .tuple [.rule starExpression, .sign ","],
     rules [starExpression]]
  | starExpression => [make .starred [.sign "*", .rule bitOr], rules [expression]]
  | starNamedExpressions => [same [separated (.rule starNamedExpression), maybeComma]]
  | starNamedExpression => [make .starred [.sign "*", .rule bitOr], rules [namedExpression]]
  | assignment => [make .assignment [.name, .sign ":=", .rule expression]]
  | namedExpression =>
    [rules [assignment], wrong wrongNaming, same [.rule expression, .notAhead (.sign ":=")]]
  | unnamedExpression =>
    [rules [assignment], same [.rule expression, .notAhead (.sign ":=")]]
  | disjunction => [logical conjunction "or"]
  | conjunction => [logical inversion "and"]
  | inversion => [make (.unary "not") [.sign "not", .rule inversion], rules [comparison]]
  | comparison =>
    [⟨.all [.rule bitOr,
        .many (.any (comparisonSigns.map fun sign => .all (sign ++ [.rule bitOr])))],
      compared⟩]
  | bitOr => [operation bitXor ["|"]]
  | bitXor => [operation bitAnd ["^"]]
  | bitAnd => [operation shift ["&"]]
  | shift => [operation sum ["<<", ">>"]]
  | sum => [operation term ["+", "-"]]
  | term => [operation factor ["*", "/", "//", "%", "@"]]
  | factor =>
    [make (.unary "+") [.sign "+", .rule factor],
     make (.unary "-") [.sign "-", .rule factor],
     make (.unary "~") [.sign "~", .rule factor],
     rules [power]]
  | power =>
    [make (.binary "**") [.rule awaited, .sign "**", .rule factor], rules [awaited]]
  | awaited => [make .await [.sign "await", .rule primary], rules [primary]]
  | primary => [⟨.all [.rule atom, .many (.rule suffix)], withSuffixes⟩]
  | suffix =>
    [make .member [.sign ".", .name],
     make .call [.rule generator],
     make .call [.sign "(", .optional (.rule arguments), .sign ")"]]
  | atom =>
    [same [.name],
     make .yes [.sign "True"],
     make .no [.sign "False"],
     make .nothing [.sign "None"],
     same [.ahead .quotation, .rule quotations],
     same [.number],
     same [.ahead (.sign "("), .any [.rule tuple, .rule group, .rule generator]],
     same [.ahead (.sign "\x7b"), .any [.rule dict, .rule set, .rule dictOf, .rule setOf]],
     make .ellipsis [.sign "..."]]
  | quotations => [⟨atLeastOne .quotation, quoted wrong?⟩]
  | tuple =>
    [make .tuple [.sign "(", .optional (.all [.rule starNamedExpression, .sign ",",
       .optional (.rule starNamedExpressions)]), .sign ")"]]
  | group =>
    [same [.sign "(", .any [.rule yielded, .rule namedExpression], .sign ")"], wrong wrongGroup]
  | generator =>
    [make .generator [.sign "(", .rule unnamedExpression, .rule clauses, .sign ")"],
     wrong wrongComprehension]
  | set => [make .set [.sign "\x7b", .rule starNamedExpressions, .sign "\x7d"]]
  | setOf =>
    [make .setOf [.sign "\x7b", .rule namedExpression, .rule clauses, .sign "\x7d"],
     wrong wrongComprehension]
  | dict =>
    [make .dict [.sign "\x7b", .optional (.rule pairs), .sign "\x7d"],
     same [.sign "\x7b", .rule wrongPairs, .sign "\x7d"]]
  | dictOf =>
    [make .dictOf [.sign "\x7b", .rule pair, .rule clauses, .sign "\x7d"], wrong wrongDictOf]
  | pairs => [same [separated (.rule pairOrSpread), maybeComma]]
  | pairOrSpread => [make .spread [.sign "**", .rule bitOr], rules [pair]]
  | pair => [make .pair [.rule expression, .sign ":", .rule expression]]
  | clauses => [same [atLeastOne (.rule clause)]]
  | clause =>
    let rest : List (Pattern Rule) :=
      [.rule targets, .sign "in", .rule disjunction, .many (.all [.sign "if", .rule disjunction])]
    [make .clause (.sign "async" :: .sign "for" :: rest),
     make .clause (.sign "for" :: rest),
     same [.notAhead (.all [.optional (.sign "async"), .sign "for", .rule targets, .sign "in"]),
       .explained (.rule wrongTarget)]]
  | arguments =>
    [same [.rule argumentList, maybeComma, .ahead (.sign ")")], wrong wrongArguments]
  | argumentList =>
    [same [separated (.rule argument), .optional (.all [.sign ",", .rule namedArguments])],
     rules [namedArguments]]
  | wholeList => [make .arguments [.rule argumentList]]
  | argument =>
    [rules [starredExpression], same [.rule unnamedExpression, .notAhead (.sign "=")]]
  | namedArguments =>
    [same [separated (.rule namedOrStarred), .sign ",", separated (.rule namedOrSpread)],
     same [separated (.rule namedOrStarred)],
     same [separated (.rule namedOrSpread)]]
  | starredExpression => [make .starred [.sign "*", .rule expression]]
  | namedOrStarred =>
    [wrong wrongNamedArgument, make .keyword [.name, .sign "=", .rule expression],
     rules [starredExpression]]
  | namedOrSpread =>
    [wrong wrongNamedArgument, make .keyword [.name, .sign "=", .rule expression],
     make .keywords [.sign "**", .rule expression]]
  | targets =>
    [same [.rule target, .notAhead (.sign ",")],
     make .tuple [.rule target, .many (.all [.sign ",", .rule target]), maybeComma]]
  | targetTuple =>
    [same [.rule target, atLeastOne (.all [.sign ",", .rule target]), maybeComma],
     same [.rule target, .sign ","]]
  | target =>
    [make .starred [.sign "*", .notAhead (.sign "*"), .rule target], rules [plainTarget]]
  | plainTarget =>
    [make .member [.rule targetPrimary, .sign ".", .name,
       .notAhead (.any [.sign "(", .sign "."])],
     rules [targetAtom]]
  | targetAtom =>
    [same [.name],
     same [.sign "(", .rule plainTarget, .sign ")"],
     make .tuple [.sign "(", .optional (.rule targetTuple), .sign ")"]]
  | targetPrimary =>
    let goesOn : Pattern Rule := .ahead (.any [.sign "(", .sign "."])
    [⟨.all [.rule atom, goesOn, .many (.all [.rule suffix, goesOn])], withSuffixes⟩]
  | lambda =>
    [make .lambda [.sign "lambda", .optional (.rule parameters), .sign ":", .rule expression]]
  | parameters => [wrong wrongParameters, rules [parameterList]]
  | parameterList =>
    let rest : List (Pattern Rule) :=
      [.many (.rule defaultedParameter), .optional (.rule starredParameters)]
    [same (.rule bareBeforeSlash :: .many (.rule bareParameter) :: rest),
     same (.rule defaultedBeforeSlash :: rest),
     same (atLeastOne (.rule bareParameter) :: rest),
     same [atLeastOne (.rule defaultedParameter), .optional (.rule starredParameters)],
     rules [starredParameters]]
  | bareBeforeSlash =>
    [same [atLeastOne (.rule bareParameter), .sign "/", .sign ","],
     same [atLeastOne (.rule bareParameter), .sign "/", .ahead (.sign ":")]]
  | defaultedBeforeSlash =>
    let before : List (Pattern Rule) :=
      [.many (.rule bareParameter), atLeastOne (.rule defaultedParameter), .sign "/"]
    [same (before ++ [.sign ","]), same (before ++ [.ahead (.sign ":")])]
  | starredParameters =>
    [same [.sign "*", .rule bareParameter, .many (.rule anyParameter),
       .optional (.rule parameterDictionary)],
     same [.sign "*", .sign ",", atLeastOne (.rule anyParameter),
       .optional (.rule parameterDictionary)],
     rules [parameterDictionary],
     wrong wrongStarredParameters]
  | parameterDictionary => [same [.sign "**", .rule bareParameter]]
  | bareParameter => [same [.name, .sign ","], same [.name, .ahead (.sign ":")]]
  | defaultedParameter =>
    let parameter : List (Pattern Rule) := [.name, .sign "=", .rule expression]
    [same (parameter ++ [.sign ","]), same (parameter ++ [.ahead (.sign ":")])]
  | anyParameter =>
    let parameter : List (Pattern Rule) :=
      [.name, .optional (.all [.sign "=", .rule expression])]
    [same (parameter ++ [.sign ","]), same (parameter ++ [.ahead (.sign ":")])]
  | wrongExpression =>
    [judge forgottenComma [.notAhead (.any [.all [.name, .quotation], .softKeyword]),
       .rule disjunction, .rule plainExpression, .bracketed],
     complain "expected 'else' after 'if' expression" [.rule disjunction, .sign "if",
       .rule disjunction, .notAhead (.any [.sign "else", .sign ":"])]]
  | wrongStatement =>
    [judge oldStatement [.name, .notAhead (.sign "("), .rule starExpressions]]
  | wrongNaming =>
    let unassigned : Pattern Rule := .notAhead (.any [.sign "=", .sign ":="])
    [judge (about "cannot use assignment expressions with " "") [.rule expression, .sign ":=",
       .rule expression],
     complain useComparison [.name, .sign "=", .rule bitOr, unassigned],
     judge (about "cannot assign to " " here. Maybe you meant '==' instead of '='?")
       [.notAhead (.any [.rule tuple, .rule generator, .sign "True", .sign "None", .sign "False"]),
        .rule bitOr, .sign "=", .rule bitOr, unassigned]]
  | wrongComprehension =>
    let unpacked (brackets : List String) (ps : List (Pattern Rule)) : List (Pattern Rule) :=
      .any (brackets.map .sign) :: ps
    let message := "did you forget parentheses around the comprehension target?"
    [complain "iterable unpacking cannot be used in comprehension"
       (unpacked ["(", "\x7b"] [.rule starredExpression, .rule clauses]),
     complain message (unpacked ["\x7b"] [.rule starNamedExpression, .sign ",",
       .rule starNamedExpressions, .rule clauses]),
     complain message (unpacked ["\x7b"] [.rule starNamedExpression, .sign ",", .rule clauses])]
  | wrongDictOf =>
    [complain "dict unpacking cannot be used in dict comprehension"
       [.sign "\x7b", .sign "**", .rule bitOr, .rule clauses, .sign "\x7d"]]
  | wrongGroup =>
    [complain "cannot use starred expression here" [.sign "(", .rule starredExpression, .sign ")"],
     complain "cannot use double starred expression here" [.sign "(", .sign "**", .rule expression,
       .sign ")"]]
  | wrongPairs =>
    [same [separated (.rule pairOrSpread), .sign ",", .rule wrongPair],
     complain starredValue [.rule expression, .sign ":", .sign "*", .rule bitOr],
     complain missingValue [.rule expression, .sign ":", .ahead (.any [.sign "\x7d", .sign ","])]]
  | wrongPair =>
    [complain "':' expected after dictionary key" [.rule expression, .notAhead (.sign ":")],
     complain starredValue [.rule expression, .sign ":", .sign "*", .rule bitOr],
     complain missingValue [.rule expression, .sign ":", .ahead (.any [.sign "\x7d", .sign ","])]]
  | wrongTarget =>
    [judge badTarget [.optional (.sign "async"), .sign "for", .rule starExpressions]]
  | wrongArguments =>
    [complain "iterable argument unpacking follows keyword argument unpacking"
       [.rule argumentList, .sign ",", .sign "*"],
     complain parenthesizeGenerator [.rule expression, .rule clauses, .sign ",",
       .optional (.any [.rule argumentList, .all [.rule expression, .rule clauses]])],
     complain useComparison [.name, .sign "=", .rule expression, .rule clauses],
     judge crowdedGenerator [.rule argumentList, .rule clauses],
     complain parenthesizeGenerator [.rule argumentList, .sign ",", .rule expression,
       .rule clauses],
     judge lateArgument [.rule wholeList, .sign ",", .rule argumentList]]
  | wrongNamedArgument =>
    [judge wrongWord [.any [.kept "True", .kept "False", .kept "None"], .sign "="],
     complain useComparison [.name, .sign "=", .rule expression, .rule clauses],
     complain "expression cannot contain assignment, perhaps you meant \"==\"?"
       [.notAhead (.all [.name, .sign "="]), .rule expression, .sign "="]]
  | wrongParameters =>
    [complain "non-default argument follows default argument"
       [.many (.rule bareParameter),
        .any [.rule defaultedBeforeSlash, atLeastOne (.rule defaultedParameter)],
        .rule bareParameter]]
  | wrongStarredParameters =>
    [complain "named arguments must follow bare *" [.sign "*",
       .any [.sign ":", .all [.sign ",", .any [.sign ":", .sign "**"]]]]]

/-- The rules that are asked again and again for one place. -/
def remembered : List Rule :=
  [expression, starExpression, disjunction, conjunction, inversion, bitOr, bitXor, bitAnd, shift,
   sum, term, factor, awaited, primary, quotations, arguments, target, plainTarget, targetPrimary,
   wrongNaming]

/-- The grammar. Expressions in templates are left to `wrong?`. -/
def grammar (wrong? : List Char → Option String) : Grammar Rule where
  alternatives := alternatives wrong?
  remembers := remembered.contains

end Rule

end GestureScript.Console.Argument
