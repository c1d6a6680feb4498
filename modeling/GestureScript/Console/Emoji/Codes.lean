import GestureScript.Console.Emoji.Names
import GestureScript.Text.Blank
import GestureScript.Text.Lowercase

/-!
# Emoji codes

A name between two colons stands for an emoji. It may end with a word for how the
emoji is shown. Codes that are no emoji's stay as they are.
-/

set_option autoImplicit false

namespace GestureScript.Console.Emoji

open Text

def named? (name : List Char) : Option (List Char) := names.lookup (String.ofList name)

/-- The word at the end of a code, and the character that it stands for. -/
def variants : List (List Char × Char) :=
  [("-emoji".toList, '\ufe0f'), ("-text".toList, '\ufe0e')]

def variant? (code : List Char) : Option (List Char × Char) :=
  variants.find? fun v => v.1.isSuffixOf code

def withoutVariant (code : List Char) : List Char :=
  (variant? code).elim code fun v => code.take (code.length - v.1.length)

/-- What a code between two colons stands for. -/
def shown (code : List Char) : List Char :=
  match named? (lower (withoutVariant code)) with
  | some picture => picture ++ ((variant? code).map (·.2)).toList
  | none => ':' :: code ++ [':']

/-- Put the pieces between the colons of a text together again. -/
def join : List (List Char) → List Char
  | [] => []
  | [p] => p
  | [p, q] => p ++ ':' :: q
  | p :: q :: r :: rest =>
    if q.any isBlank then p ++ ':' :: join (q :: r :: rest) else p ++ shown q ++ join (r :: rest)

/-- Put emoji in place of their codes. -/
def replaceCodes (cs : List Char) : List Char := join (splitOn ':' cs)

end GestureScript.Console.Emoji
