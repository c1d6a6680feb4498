import GestureScript.Binary64.Basic
import GestureScript.Console.Argument.Tree
import GestureScript.Console.Argument.Number
import GestureScript.Numeral
import GestureScript.Text.Category

/-!
# Values of expressions

Only plain values may be given to a handler: numbers, texts, truth values, and
tuples, sets and dictionaries of them. The values themselves are of no use here,
but a set or a key must not hold a set or a dictionary.
-/

set_option autoImplicit false

namespace GestureScript.Console.Argument

inductive Value where
  | whole (n : Int)
  | real
  | imaginary
  /-- A text, a truth value, or a value that stands for nothing. -/
  | plain
  | tuple (vs : List Value)
  | set
  | dict
  deriving Repr

/-- Why an expression has no value. -/
inductive ValueFault where
  /-- An expression that is none of those allowed. -/
  | notPlain
  /-- Pairs that come from another dictionary. -/
  | spread
  /-- A member of a set, or a key, that is itself such a collection. -/
  | unhashable (typeName : String)
  | tooLarge
  deriving DecidableEq, Repr

def ValueFault.message : ValueFault → String
  | .notPlain => "malformed node or string on line 1"
  | .spread => "malformed node or string: None"
  | .unhashable typeName => "unhashable type: '" ++ typeName ++ "'"
  | .tooLarge => "int too large to convert to float"

namespace Value

mutual

/-- The type of a set or dictionary that a value is, or that is in a tuple. -/
def collection? : Value → Option String
  | .set => some "set"
  | .dict => some "dict"
  | .tuple vs => collectionIn? vs
  | _ => none

def collectionIn? : List Value → Option String
  | [] => none
  | v :: vs => (collection? v).or (collectionIn? vs)

end

/-- A value may be a member of a set or a key. -/
def asMember (v : Value) : Except ValueFault Unit :=
  v.collection?.elim (.ok ()) fun typeName => .error (.unhashable typeName)

/-- The number that digits of a base write. -/
def wholeOf (base : Nat) (ds : List Char) : Nat :=
  ds.foldl (fun n d => base * n + Text.Category.readHex [d.toLower]) 0

/-- The value of a number in an expression. -/
def ofNumber (text : String) : Value :=
  let cs := text.toList.filter (· != '_')
  match cs.map Char.toLower with
  | '0' :: 'x' :: ds => .whole (wholeOf 16 ds)
  | '0' :: 'o' :: ds => .whole (wholeOf 8 ds)
  | '0' :: 'b' :: ds => .whole (wholeOf 2 ds)
  | ds =>
    if ds.getLast? == some 'j' then .imaginary
    else if ds.all Char.isDigit then .whole (Numeral.natural ds)
    else .real

def negated : Value → Value
  | .whole n => .whole (-n)
  | v => v

end Value

namespace Tree

/-- The value of a number. -/
def number? : Tree → Option Value
  | .leaf t => if t.kind == .number then some (.ofNumber t.text) else none
  | .node .. => none

/-- The value of a number that may have a sign. -/
def signedNumber? : Tree → Option Value
  | .node (.unary sign) [t] =>
    if sign = "-" then t.number?.map Value.negated else if sign = "+" then t.number? else none
  | t => t.number?

/-- The sum or the difference of a number and an imaginary one. -/
def complexOf (left right : Tree) : Except ValueFault Value :=
  match left.signedNumber?, right.number? with
  | some (.whole n), some .imaginary =>
    if (Binary64.ofInt? n).isSome then .ok .imaginary else .error .tooLarge
  | some .real, some .imaginary => .ok .imaginary
  | _, _ => .error .notPlain

mutual

def value : Tree → Except ValueFault Value
  | .leaf t => ((Tree.leaf t).number?).elim (.error .notPlain) .ok
  | .node shape parts =>
    match shape, parts with
    | .nothing, _ => .ok .plain
    | .yes, _ => .ok .plain
    | .no, _ => .ok .plain
    | .ellipsis, _ => .ok .plain
    | .quotations, _ => .ok .plain
    | .tuple, parts => (values parts).map .tuple
    | .set, parts => do
      checkMembers parts
      return .set
    | .dict, parts => do
      checkPairs parts
      return .dict
    | .call, [f] => if f.name? = some "set" then .ok .set else .error .notPlain
    | .unary sign, [t] => (signedNumber? (.node (.unary sign) [t])).elim (.error .notPlain) .ok
    | .binary sign, [left, right] =>
      if sign = "+" || sign = "-" then complexOf left right else .error .notPlain
    | _, _ => .error .notPlain

def values : List Tree → Except ValueFault (List Value)
  | [] => .ok []
  | t :: ts => do
    let v ← value t
    let vs ← values ts
    return v :: vs

/-- The members of a set, which are put into it one by one. -/
def checkMembers : List Tree → Except ValueFault Unit
  | [] => .ok ()
  | t :: ts => do
    (← value t).asMember
    checkMembers ts

/-- The pairs of a dictionary, which are put into it one by one. -/
def checkPairs : List Tree → Except ValueFault Unit
  | [] => .ok ()
  | t :: ts => do
    checkPair t
    checkPairs ts

def checkPair : Tree → Except ValueFault Unit
  | .node .pair [k, v] => do
    let k ← value k
    let _ ← value v
    k.asMember
  | _ => .error .spread

end

end Tree

end GestureScript.Console.Argument
