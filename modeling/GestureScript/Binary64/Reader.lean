import GestureScript.Binary64.Basic
import GestureScript.Numeral

/-!
# Reading floating point numbers

A decimal has digits with or without a point, and may have an exponent. A loose
numeral allows blanks around it, digits of any script, single underscores between
digits, and the names of the numbers that are not finite.
-/

set_option autoImplicit false

namespace GestureScript.Binary64

open Numeral Text

/-- The value of whole digits, fraction digits and an exponent. -/
def ofDigits (negative : Bool) (whole fraction : List Char) (exponent : Int) : Binary64 :=
  ofDecimal negative (natural (whole ++ fraction)) (exponent - fraction.length)

/-- Split at the first character that satisfies `p`, which is dropped. -/
def splitAt? (p : Char → Bool) (cs : List Char) : Option (List Char × List Char) :=
  match cs.dropWhile (fun c => !p c) with
  | [] => none
  | _ :: rest => some (cs.takeWhile (fun c => !p c), rest)

/-- Grouped digits, or none at all. -/
def groupedOrNone? : List Char → Option (List Char)
  | [] => some []
  | cs => grouped? cs

def exponent? (cs : List Char) : Option Int :=
  let (negative, ds) := splitSign cs
  (grouped? ds).map fun ds => signed negative (natural ds)

/-- Digits with a point somewhere, or without one. -/
def mantissa? (cs : List Char) : Option (List Char × List Char) :=
  match splitAt? (· == '.') cs with
  | none => (grouped? cs).map fun ds => (ds, [])
  | some (a, b) =>
    match groupedOrNone? a, groupedOrNone? b with
    | some [], some [] => none
    | some whole, some fraction => some (whole, fraction)
    | _, _ => none

def isInfinityName (cs : List Char) : Bool :=
  let name := String.ofList (cs.map Char.toLower)
  name == "inf" || name == "infinity"

def isNanName (cs : List Char) : Bool := String.ofList (cs.map Char.toLower) == "nan"

/-- Read a loose numeral. -/
def readLoose? (cs : List Char) : Option Binary64 :=
  let (negative, body) := splitSign (dropMargins (asciiDigits cs))
  if isInfinityName body then some (.infinite negative)
  else if isNanName body then some .nan
  else match splitAt? (fun c => c == 'e' || c == 'E') body with
    | none => (mantissa? body).map fun (a, b) => ofDigits negative a b 0
    | some (m, x) =>
      match mantissa? m, exponent? x with
      | some (a, b), some k => some (ofDigits negative a b k)
      | _, _ => none

end GestureScript.Binary64
