import GestureScript.Command.Basic
import GestureScript.Json.Basic
import GestureScript.Json.Writer
import GestureScript.Validation.Field
import GestureScript.Validation.Scalar

/-!
# Commands as data

A command is an object whose `kind` names its variant. Unknown keys are ignored.
Complaints about the fields of a variant start with its kind.
-/

set_option autoImplicit false

namespace GestureScript

variable {τ : Type}

def Point.toJson (p : Point) : Json τ := .object [("x", .int p.x), ("y", .int p.y)]

variable [TextKind τ]

def Point.ofJson : Json τ → Checked Point
  | .object es =>
    .both Point.mk ((Key.plain "x").required Read.integer es)
      ((Key.plain "y").required Read.integer es)
  | _ => .refuse .modelType

def Direction.ofJson : Json τ → Checked Direction :=
  Read.choice Direction.name Direction.all .notChoice

def Button.ofJson : Json τ → Checked Button := Read.choice Button.name Button.all .notChoice

/-- The points of a tap. One bad point makes the whole list count as too short. -/
def Point.listOfJson : Json τ → Checked (List Point)
  | .array items =>
    match Read.itemsFrom Point.ofJson 0 items with
    | .valid [] => .refuse .tooShort
    | .valid points => .valid points
    | .invalid cs => .invalid (cs ++ [⟨.tooShort, []⟩])
  | _ => .refuse .tupleType

namespace Command

/-- Fields in the order in which they are declared, the kind first. -/
def toJson : Command τ → Json τ
  | .tap points duration =>
    .object [("kind", .ofString "tap"), ("points", .array (points.map Point.toJson)),
      ("duration_ms", .int duration)]
  | .swipe start finish duration =>
    .object [("kind", .ofString "swipe"), ("start", start.toJson), ("end", finish.toJson),
      ("duration_ms", .int duration)]
  | .scroll direction duration =>
    .object [("kind", .ofString "scroll"), ("direction", .ofString direction.name),
      ("duration_ms", .int duration)]
  | .typeText text commit clear =>
    .object [("kind", .ofString "type_text"), ("text", .text text),
      ("commit_on_finish", .bool commit), ("clear_existing_first", .bool clear)]
  | .wait duration => .object [("kind", .ofString "wait"), ("duration_ms", .int duration)]
  | .press button => .object [("kind", .ofString "navigation"), ("action", .ofString button.name)]

def readFields (es : List (String × Json τ)) : Kind → Checked (Command τ)
  | .tap =>
    .both Command.tap ((Key.plain "points").required Point.listOfJson es)
      ((Key.plain "duration_ms").withDefault defaultTapDuration (Read.atLeast 1) es)
  | .swipe =>
    .both id
      (.both Command.swipe ((Key.plain "start").required Point.ofJson es)
        ((Key.plain "end").required Point.ofJson es))
      ((Key.plain "duration_ms").withDefault defaultSwipeDuration (Read.atLeast 1) es)
  | .scroll =>
    .both Command.scroll ((Key.plain "direction").required Direction.ofJson es)
      ((Key.plain "duration_ms").withDefault defaultScrollDuration (Read.atLeast 1) es)
  | .typeText =>
    .both id
      (.both Command.typeText ((Key.plain "text").required Read.text es)
        ((Key.plain "commit_on_finish").withDefault false Read.truth es))
      ((Key.plain "clear_existing_first").withDefault false Read.truth es)
  | .wait => .map Command.wait ((Key.plain "duration_ms").required (Read.atLeast 0) es)
  | .press => .map Command.press ((Key.plain "action").required Button.ofJson es)

/-- The kind that a tag names. -/
def kindOfTag? : Json τ → Option Kind
  | .text t => (TextKind.string? t).bind Kind.ofName?
  | _ => none

def ofJson : Json τ → Checked (Command τ)
  | .object es =>
    match Json.lookup? "kind" es with
    | none => .refuse .noTag
    | some tag =>
      match kindOfTag? tag with
      | none => .refuse .unknownTag
      | some k => (readFields es k).under (.key k.name)
  | _ => .refuse .notObject

/-- The text of a command, unless what it types has halves of characters in it. -/
def write (c : Command τ) : Except Fault String := c.toJson.write

@[simp] theorem write_eq (c : Command) : c.write = .ok c.toJson.compact := Json.write_eq _

end Command

end GestureScript
