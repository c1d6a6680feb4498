import GestureScript.Console.Emoji.Codes
import GestureScript.Console.Handler
import GestureScript.Console.Layout
import GestureScript.Console.Style
import GestureScript.Numeral

/-!
# Markup

In a console text a tag in square brackets sets a style, and a tag that begins
with a slash ends one; a tag may also name a handler. Tags are not shown. A backslash
before a tag makes it plain text, and two of them stand for one.
-/

set_option autoImplicit false

namespace GestureScript.Console

open Text

structure Tag where
  name : List Char
  parameters : Option (List Char)
  deriving DecidableEq, Repr

/-- Parts of a marked-up text. A tag comes with its position. -/
inductive Piece where
  | plain (cs : List Char)
  | tag (position : Nat) (t : Tag)
  deriving DecidableEq, Repr

inductive MarkupFault where
  /-- An end of a style that was not begun. -/
  | unopened (t : Tag) (position : Nat)
  /-- An end with no style to end. -/
  | nothingOpen (position : Nat)
  /-- Parameters of a handler that say nothing. -/
  | handler (f : Handler.Fault)
  /-- A color whose parts are no numbers. -/
  | color (f : ColorFault)
  deriving DecidableEq, Repr

namespace Tag

/-- Parameters stand behind the first equals sign. -/
def ofBody (body : List Char) : Tag where
  name := body.takeWhile (· != '=')
  parameters := if body.contains '=' then some ((body.dropWhile (· != '=')).drop 1) else none

def written (t : Tag) : List Char :=
  '[' :: t.name ++ (t.parameters.elim [] ('=' :: ·)) ++ [']']

end Tag

def MarkupFault.message : MarkupFault → String
  | .unopened t position =>
    "closing tag '" ++ String.ofList t.written ++ "' at position " ++ toString position ++
      " doesn't match any open tag"
  | .nothingOpen position =>
    "closing tag '[/]' at position " ++ toString position ++ " has nothing to close"
  | .handler f => f.message
  | .color f => f.message

namespace Markup

def startsTag (c : Char) : Bool := ('a' ≤ c && c ≤ 'z') || c == '#' || c == '/' || c == '@'

/-- The text up to a closing bracket, if no other bracket opens before. -/
def upToBracket : List Char → Option (List Char)
  | [] => none
  | ']' :: _ => some []
  | '[' :: _ => none
  | c :: cs => (upToBracket cs).map (c :: ·)

/-- What stands in a tag that follows an opening bracket. -/
def body? : List Char → Option (List Char)
  | c :: cs => if startsTag c then (upToBracket cs).map (c :: ·) else none
  | [] => none

/-- Backslashes and then a tag, at the start of a text. -/
def tagAt? (cs : List Char) : Option (Nat × List Char) :=
  match cs.dropWhile (· == '\\') with
  | '[' :: rest => (body? rest).map fun body => ((cs.takeWhile (· == '\\')).length, body)
  | _ => none

/-- What backslashes and a tag stand for at a position. -/
def piecesOfTag (position backslashes : Nat) (body : List Char) : List Piece :=
  (if backslashes < 2 then [] else [.plain (List.replicate (backslashes / 2) '\\')]) ++
    [if backslashes % 2 = 1 then .plain ('[' :: body ++ [']'])
     else .tag (position + backslashes) (.ofBody body)]

/-- An opening bracket that starts no tag needs no backslash, but may have one. -/
def unescape : List Char → List Char
  | '\\' :: '[' :: cs => '[' :: unescape cs
  | c :: cs => c :: unescape cs
  | [] => []

/-- Plain text that was gathered backwards. -/
def gathered (cs : List Char) : List Piece :=
  if cs.isEmpty then [] else [.plain (unescape cs.reverse)]

/-- Cut a text, from a position on, into pieces. The first `skip` characters belong
to a tag that was cut off before. -/
def cut (position skip : Nat) (before : List Char) : List Char → List Piece
  | [] => gathered before
  | c :: cs =>
    match skip with
    | skip + 1 => cut (position + 1) skip before cs
    | 0 =>
      match tagAt? (c :: cs) with
      | some (backslashes, body) =>
        gathered before ++ piecesOfTag position backslashes body ++
          cut (position + 1) (backslashes + body.length + 1) [] cs
      | none => cut (position + 1) 0 (c :: before) cs

def pieces (cs : List Char) : List Piece := cut 0 0 [] cs

/-- A tag that was opened, with the normal form of its name, at a place in the text. -/
structure Opened where
  name : List Char
  parameters : Option (List Char)
  start : Nat
  deriving DecidableEq, Repr

namespace Opened

/-- Does a tag name a handler rather than a style? -/
def isHandler (o : Opened) : Bool := o.name.head? == some '@'

/-- The style that a tag names, with its parameters. -/
def styleName (o : Opened) : List Char := o.name ++ o.parameters.elim [] (' ' :: ·)

/-- The parameters of a handler are looked at, unless there are none. -/
def check (o : Opened) : Except MarkupFault Unit :=
  match o.isHandler, o.parameters with
  | true, some parameters =>
    if parameters.isEmpty then .ok () else (Handler.check parameters).mapError .handler
  | _, _ => .ok ()

end Opened

/-- A style from one place in the text to another. -/
structure Span where
  start : Nat
  stop : Nat
  style : List Char
  deriving DecidableEq, Repr

/-- What was made of some pieces. Texts, tags and spans are kept latest first. -/
structure Rendering where
  texts : List (List Char) := []
  length : Nat := 0
  opened : List Opened := []
  spans : List Span := []
  deriving DecidableEq, Repr

/-- Take the latest tag of a name off the stack. -/
def close? (name : List Char) : List Opened → Option (Opened × List Opened)
  | [] => none
  | o :: os =>
    if o.name = name then some (o, os) else (close? name os).map fun (c, os) => (c, o :: os)

@[simp] theorem close?_nil (name : List Char) : close? name [] = none := rfl

@[simp] theorem close?_cons_self (o : Opened) (os : List Opened) :
    close? o.name (o :: os) = some (o, os) := by simp [close?]

namespace Rendering

def text (r : Rendering) : List Char := r.texts.reverse.flatten

def write (r : Rendering) (cs : List Char) : Rendering :=
  { r with texts := cs :: r.texts, length := r.length + cs.length }

/-- End a tag at the end of the text. A handler leaves no style. -/
def finish (r : Rendering) (o : Opened) : Rendering :=
  { r with spans := ⟨o.start, r.length, o.styleName⟩ :: r.spans }

def close (r : Rendering) (o : Opened) (rest : List Opened) : Except MarkupFault Rendering := do
  o.check
  let r := { r with opened := rest }
  return if o.isHandler then r else r.finish o

def applyTag (r : Rendering) (position : Nat) (t : Tag) : Except MarkupFault Rendering :=
  match t.name with
  | '/' :: name =>
    if (trim name).isEmpty then
      match r.opened with
      | [] => .error (.nothingOpen position)
      | o :: rest => r.close o rest
    else do
      let name ← (Style.normal (trim name)).mapError .color
      match close? name r.opened with
      | none => .error (.unopened t position)
      | some (o, rest) => r.close o rest
  | name => do
    let name ← (Style.normal name).mapError .color
    return { r with opened := ⟨name, t.parameters, r.length⟩ :: r.opened }

/-- Add a piece, with emoji in place of their codes. -/
def add (r : Rendering) : Piece → Except MarkupFault Rendering
  | .plain cs => .ok (r.write (Layout.visible (Emoji.replaceCodes cs)))
  | .tag position t => r.applyTag position t

/-- The spans in the order of their starts. Tags that were not closed end with the
text; of spans with one start the latest comes first. Where there are tabs the text
is cut, and nothing is left of spans without any text. -/
def orderedSpans (r : Rendering) : List Span :=
  let spans := ((r.opened.foldl finish r).spans).mergeSort fun a b => a.start ≤ b.start
  if r.text.contains '\t' then spans.filter fun s => s.start != s.stop else spans

/-- Read the names of all styles. Names of no style are passed over. -/
def checkStyles : List Span → Except ColorFault Unit
  | [] => .ok ()
  | s :: ss =>
    match Style.read s.style with
    | .error f => .error f
    | .ok _ => checkStyles ss

end Rendering

def render (cs : List Char) : Except MarkupFault Rendering :=
  (pieces cs).foldlM (fun r p => r.add p) {}

/-- The text without its tags, once all styles in it were read. -/
def shown (cs : List Char) : Except MarkupFault (List Char) := do
  let r ← render cs
  (Rendering.checkStyles r.orderedSpans).mapError .color
  return r.text

@[simp] theorem shown_nil : shown [] = .ok [] := by
  have h : ({} : Rendering).orderedSpans = [] := by
    simp [Rendering.orderedSpans, Rendering.text]
  change ((Rendering.checkStyles ({} : Rendering).orderedSpans).mapError MarkupFault.color).bind
    (fun _ => .ok []) = .ok []
  rw [h]
  rfl

/-- Make tags plain. `skip` characters belong to a tag that was made plain before. -/
def escapeFrom (skip : Nat) : List Char → List Char
  | [] => []
  | c :: cs =>
    match skip with
    | skip + 1 => c :: escapeFrom skip cs
    | 0 =>
      match tagAt? (c :: cs) with
      | some (backslashes, body) =>
        List.replicate (backslashes + 1) '\\' ++ c :: escapeFrom (backslashes + body.length + 1) cs
      | none => c :: escapeFrom 0 cs

/-- Make a text plain, so that it is shown as it is. -/
def escape (cs : List Char) : List Char :=
  let plain := escapeFrom 0 cs
  if plain.getLast? == some '\\' && plain.dropLast.getLast? != some '\\' then plain ++ ['\\']
  else plain

end Markup

end GestureScript.Console
