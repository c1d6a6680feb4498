import GestureScript.Json.Display
import GestureScript.Json.Writer
import GestureScript.Outcome.Basic
import GestureScript.Validation.Field
import GestureScript.Validation.Scalar

/-!
# Outcomes as data

The fault behind a failure is not data: it is given beside the fields and is left
out of what is written.
-/

set_option autoImplicit false

namespace GestureScript

def ErrorKind.ofJson : Json → Checked ErrorKind :=
  Read.choice ErrorKind.name ErrorKind.all .notChoice

/-- The error kind that a value names. -/
def ErrorKind.ofValue : Json → Except Fault ErrorKind
  | .text s => (ofName? s).elim (.error (.unknownErrorKind (Json.text s).display)) .ok
  | j => .error (.unknownErrorKind j.display)

/-- The field that tells the two sorts of outcome apart. -/
def Outcome.checkTag (tag : String) (es : List (String × Json)) : Checked String :=
  (Key.plain "outcome").withDefault tag (Read.choice id [tag] .notLiteral) es

def readMetadata : Json → Checked (List (String × Json))
  | .object es => .valid es
  | _ => .refuse .objectType

namespace Success

def ofFields (es : List (String × Json)) : Checked Success :=
  .both id
    (.both (fun _ message => Success.mk message) (Outcome.checkTag "success" es)
      ((Key.plain "message").required Read.text es))
    ((Key.plain "metadata").withDefault none (Read.optional readMetadata) es)

def toJson (s : Success) : Json :=
  .object [("outcome", .text "success"), ("message", .text s.message),
    ("metadata", s.metadata.elim .null .object)]

/-- The success counts as one more value around its metadata. -/
def isWritable (s : Success) : Bool :=
  s.metadata.all fun es => 1 + Json.depth (.object es) ≤ Json.nestingLimit

end Success

namespace Failure

def ofFields (cause : Option Fault) (es : List (String × Json)) : Checked Failure :=
  .both id
    (.both (fun _ reason => Failure.mk reason cause) (Outcome.checkTag "failure" es)
      ((Key.plain "reason").required Read.text es))
    ((Key.plain "error_kind").withDefault .unknown ErrorKind.ofJson es)

def toJson (f : Failure) : Json :=
  .object [("outcome", .text "failure"), ("reason", .text f.reason),
    ("error_kind", .text f.kind.name)]

end Failure

def Outcome.toJson : Outcome → Json
  | .success s => s.toJson
  | .failure f => f.toJson

/-- The text of an outcome, unless its metadata are nested too deeply. -/
def Outcome.write (o : Outcome) : Except Fault String :=
  match o with
  | .success s => if s.isWritable then .ok s.toJson.compact else .error .nestedTooDeep
  | .failure f => .ok f.toJson.compact

end GestureScript
