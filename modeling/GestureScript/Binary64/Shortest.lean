import GestureScript.Binary64.Basic

/-!
# The shortest decimal text

Of all decimals that read back as a number, one with the fewest digits is
written, and of those the nearest. A `Style` says how its digits are laid out.
-/

set_option autoImplicit false

namespace GestureScript.Binary64

/-- Decimal digits after a point that is moved `point` places to the right. -/
structure Decimal where
  digits : List Char
  point : Int
  deriving DecidableEq, Repr

/-- The reals between `low / den` and `high / den`, with the ends if `closed`. -/
structure Interval where
  low : Nat
  value : Nat
  high : Nat
  den : Nat
  closed : Bool

/-- The reals that round to `m * 2 ^ e`, and that number itself. -/
def interval (m : Nat) (e : Int) : Interval :=
  let below := if m = twoPow 52 && e > leastExponent then 4 * m - 1 else 4 * m - 2
  let (unit, den) := match e - 2 with
    | .ofNat k => (twoPow k, 1)
    | .negSucc k => (1, twoPow (k + 1))
  ⟨below * unit, 4 * m * unit, (4 * m + 2) * unit, den, m % 2 == 0⟩

/-- Powers of ten that multiply a grid number and the interval, so that both are whole. -/
def gridFactors (g : Int) : Nat × Nat :=
  match g with
  | .ofNat k => (tenPow k, 1)
  | .negSucc k => (1, tenPow (k + 1))

/-- Does `n * 10 ^ g` read back? -/
def Interval.holds (i : Interval) (g : Int) (n : Nat) : Bool :=
  let (up, down) := gridFactors g
  let x := n * up * i.den
  if i.closed then i.low * down ≤ x && x ≤ i.high * down else i.low * down < x && x < i.high * down

/-- The multiple of `10 ^ g` that reads back and is nearest to the value. Of two that
are as near the even one is taken. -/
def Interval.onGrid? (i : Interval) (g : Int) : Option Nat :=
  let (up, down) := gridFactors g
  let n := i.value * down / (up * i.den)
  match i.holds g n, i.holds g (n + 1) with
  | true, true =>
    some (roundDiv (i.value * down) (up * i.den))
  | true, false => some n
  | false, true => some (n + 1)
  | false, false => none

/-- The power of ten of the leading digit of the value. -/
def Interval.leading (i : Interval) : Int :=
  let p : Int := (Nat.toDigits 10 i.value).length - (Nat.toDigits 10 i.den).length
  let (up, down) := gridFactors p
  if i.value * down ≥ i.den * up then p else p - 1

def dropZeros (ds : List Char) : List Char := (ds.reverse.dropWhile (· == '0')).reverse

/-- The shortest decimal that reads back as `m * 2 ^ e`. Seventeen digits always do. -/
def shortest (m : Nat) (e : Int) : Decimal :=
  let i := interval m e
  let found := (List.range 17).findSome? fun (k : Nat) =>
    let g := i.leading - k
    (i.onGrid? g).map fun n => (n, g)
  match found with
  | some (n, g) => ⟨dropZeros (Nat.toDigits 10 n), (Nat.toDigits 10 n).length + g⟩
  | none => ⟨['0'], 1⟩

/-- Positions of the point at which no exponent is written, the text of an
exponent, and the texts of the numbers without digits. -/
structure Style where
  leastPoint : Int
  greatestPoint : Int
  exponent : Int → List Char
  infinite : List Char
  nan : List Char

/-- The sign and the digits of an exponent, at least `width` of them. -/
def exponentChars (width : Nat) (n : Int) : List Char :=
  let ds := Nat.toDigits 10 n.natAbs
  (if n < 0 then '-' else '+') :: (List.replicate (width - ds.length) '0' ++ ds)

/-- In messages there is no exponent from 0.0001 up to ten to the sixteenth. -/
def messageStyle : Style where
  leastPoint := -3
  greatestPoint := 16
  exponent := exponentChars 2
  infinite := "inf".toList
  nan := "nan".toList

def Decimal.positional (d : Decimal) : List Char :=
  if d.point ≤ 0 then '0' :: '.' :: List.replicate (-d.point).toNat '0' ++ d.digits
  else
    let k := d.point.toNat
    if d.digits.length ≤ k then
      d.digits ++ List.replicate (k - d.digits.length) '0' ++ ['.', '0']
    else d.digits.take k ++ '.' :: d.digits.drop k

def Decimal.scientific (d : Decimal) (style : Style) : List Char :=
  match d.digits with
  | [] => []
  | [c] => c :: 'e' :: style.exponent (d.point - 1)
  | c :: cs => c :: '.' :: cs ++ 'e' :: style.exponent (d.point - 1)

def Decimal.text (d : Decimal) (style : Style) : List Char :=
  if style.leastPoint ≤ d.point && d.point ≤ style.greatestPoint then d.positional
  else d.scientific style

def text (style : Style) : Binary64 → List Char
  | .finite negative m e =>
    let d := if m = 0 then ⟨['0'], 1⟩ else shortest m e
    if negative then '-' :: d.text style else d.text style
  | .infinite negative => if negative then '-' :: style.infinite else style.infinite
  | .nan => style.nan

end GestureScript.Binary64
