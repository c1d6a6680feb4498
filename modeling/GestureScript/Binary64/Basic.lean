/-!
# Binary floating point numbers of 64 bits

A finite number is a sign, a whole mantissa and a power of two. Numbers are made
by rounding an exact quotient once, to the nearest number and on a tie to the
one with the even mantissa, so every operation here is exact up to its last step.
-/

set_option autoImplicit false

namespace GestureScript

/-- The mantissa is below `2 ^ 53`. It is at least `2 ^ 52`, unless the exponent is
the least one. -/
inductive Binary64 where
  | finite (negative : Bool) (mantissa : Nat) (exponent : Int)
  | infinite (negative : Bool)
  | nan
  deriving DecidableEq, Repr

namespace Binary64

/-- `2 ^ k`. -/
def twoPow (k : Nat) : Nat := Nat.pow 2 k

/-- `10 ^ k`. -/
def tenPow (k : Nat) : Nat := Nat.pow 10 k

/-- `2 ^ 63`: integers of 64 bits with a sign are below it. -/
def wordLimit : Int := 9223372036854775808

def leastExponent : Int := -1074
def greatestExponent : Int := 971

def zero (negative : Bool) : Binary64 := .finite negative 0 leastExponent

/-- The quotient `a / b` as a whole number, ties to even. -/
def roundDiv (a b : Nat) : Nat :=
  let q := a / b
  let r := a % b
  if 2 * r > b || (2 * r == b && q % 2 == 1) then q + 1 else q

/-- `num / den` in units of `2 ^ e`, as a quotient of whole numbers. -/
def inUnits (num den : Nat) (e : Int) : Nat × Nat :=
  match e with
  | .ofNat k => (num, den * twoPow k)
  | .negSucc k => (num * twoPow (k + 1), den)

/-- The exponent at which `num / den` has a mantissa of 53 bits, or the least one. -/
def exponentFor (num den : Nat) : Int :=
  let e : Int := (Nat.log2 num : Int) - Nat.log2 den - 53
  let (a, b) := inUnits num den e
  max leastExponent (if a / b < twoPow 53 then e else e + 1)

/-- The number nearest to `num / den`. -/
def ofRatio (negative : Bool) (num den : Nat) : Binary64 :=
  if num = 0 then zero negative
  else
    let e := exponentFor num den
    let (a, b) := inUnits num den e
    let m := roundDiv a b
    let (m, e) := if m = twoPow 53 then (twoPow 52, e + 1) else (m, e)
    if e > greatestExponent then .infinite negative else .finite negative m e

/-- The number nearest to an integer, if there is a finite one. -/
def ofInt? (n : Int) : Option Binary64 :=
  match ofRatio (n < 0) n.natAbs 1 with
  | .infinite _ => none
  | x => some x

/-- The number nearest to `digits * 10 ^ exponent`. -/
def ofDecimal (negative : Bool) (digits : Nat) (exponent : Int) : Binary64 :=
  let places : Int := (Nat.toDigits 10 digits).length
  if digits = 0 || exponent + places < -400 then zero negative
  else if exponent + places > 400 then .infinite negative
  else match exponent with
    | .ofNat k => ofRatio negative (digits * tenPow k) 1
    | .negSucc k => ofRatio negative digits (tenPow (k + 1))

/-- The product with the quotient `a / b`, rounded once. -/
def scale (x : Binary64) (a b : Nat) : Binary64 :=
  match x with
  | .finite negative m (.ofNat k) => ofRatio negative (m * twoPow k * a) b
  | .finite negative m (.negSucc k) => ofRatio negative (m * a) (twoPow (k + 1) * b)
  | x => x

def isPositive : Binary64 → Bool
  | .finite negative m _ => !negative && m != 0
  | .infinite negative => !negative
  | .nan => false

/-- The whole part of a finite number, toward zero. -/
def truncate? : Binary64 → Option Int
  | .finite negative m (.ofNat k) =>
    some (if negative then -(m * twoPow k : Nat) else (m * twoPow k : Nat))
  | .finite negative m (.negSucc k) =>
    some (if negative then -(m / twoPow (k + 1) : Nat) else (m / twoPow (k + 1) : Nat))
  | _ => none

/-- The value of a finite number that is whole. -/
def toInt? (x : Binary64) : Option Int :=
  match x with
  | .finite _ m (.negSucc k) => if m % twoPow (k + 1) = 0 then x.truncate? else none
  | x => x.truncate?

def isFinite : Binary64 → Bool
  | .finite .. => true
  | _ => false

end Binary64

end GestureScript
