import GestureScript.Console.Argument.Token

/-!
# Expressions

An expression is a token or is put together from others. `Tree.describe` tells what
an expression is, as complaints call it.
-/

set_option autoImplicit false

namespace GestureScript.Console.Argument

inductive Shape where
  | nothing
  | yes
  | no
  | ellipsis
  /-- Quotations one after the other, with or without fields in them. -/
  | quotations
  | template
  | tuple
  | set
  | dict
  /-- A key and a value. -/
  | pair
  /-- Pairs that are taken from another dictionary. -/
  | spread
  | member
  | call
  /-- An argument with its name. -/
  | keyword
  /-- Arguments that are taken from a dictionary. -/
  | keywords
  /-- All arguments of a call. -/
  | arguments
  | starred
  | generator
  /-- What a generator or another such expression goes through. -/
  | clause
  | setOf
  | dictOf
  | lambda
  | conditional
  | assignment
  | unary (sign : String)
  | binary (sign : String)
  | logical
  /-- A comparison, by the first of its signs. -/
  | comparison (sign : String)
  | await
  | yield
  deriving DecidableEq, Repr

inductive Tree where
  | leaf (t : Token)
  | node (shape : Shape) (parts : List Tree)
  deriving Repr

namespace Tree

def describe : Tree → String
  | .leaf t => if t.kind == .name then "name" else "literal"
  | .node shape _ =>
    match shape with
    | .nothing => "None"
    | .yes => "True"
    | .no => "False"
    | .ellipsis => "Ellipsis"
    | .quotations => "literal"
    | .template => "f-string expression"
    | .tuple => "tuple"
    | .set => "set display"
    | .dict => "dict literal"
    | .member => "attribute"
    | .call => "function call"
    | .starred => "starred"
    | .generator => "generator expression"
    | .setOf => "set comprehension"
    | .dictOf => "dict comprehension"
    | .lambda => "lambda"
    | .conditional => "conditional expression"
    | .assignment => "named expression"
    | .comparison _ => "comparison"
    | .await => "await expression"
    | .yield => "yield expression"
    | _ => "expression"

/-- The name that an expression is. -/
def name? : Tree → Option String
  | .leaf t => if t.kind == .name then some t.text else none
  | .node .. => none

/-- Statements of old that a name may be taken for. -/
def isOldStatement (t : Tree) : Bool :=
  t.name? == some "print" || t.name? == some "exec"

mutual

/-- The first part of an expression that values cannot be given to one by one. What
is compared by `in` is looked at in front of it. -/
def nonTarget? : Tree → Option Tree
  | .leaf t => if t.kind == .name then none else some (.leaf t)
  | .node .tuple parts => nonTargetIn? parts
  | .node .starred parts => nonTargetIn? parts
  | .node .member _ => none
  | .node (.comparison sign) parts => if sign = "in" then nonTargetFirst? parts else none
  | .node shape parts => some (.node shape parts)

def nonTargetIn? : List Tree → Option Tree
  | [] => none
  | t :: ts =>
    match nonTarget? t with
    | some t => some t
    | none => nonTargetIn? ts

def nonTargetFirst? : List Tree → Option Tree
  | [] => none
  | t :: _ => nonTarget? t

end

end Tree

end GestureScript.Console.Argument
