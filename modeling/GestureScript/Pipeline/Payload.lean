import GestureScript.Element.Schema
import GestureScript.Monitor.Basic

/-!
# The screen for a planner

What a planner is shown of the screen: the application in the foreground, the
last transition and all elements, as one text.
-/

set_option autoImplicit false

namespace GestureScript.Monitor

variable {τ : Type}

def payloadOf (m : Monitor τ) (s : Snapshot τ) : Json τ :=
  .object [("foregroundPackage", Element.textOrNull (m.foreground.bind Package.text?)),
    ("lastTransition", m.lastTransition.elim .null (Transition.toJson Key.camel)),
    ("uiTree", s.toJson Key.camel)]

/-- A name that is no text cannot be shown. -/
def isShown (m : Monitor τ) : Bool := m.foreground.all (·.text?.isSome)

/-- There is none before the first snapshot, nor for one that is nested too deeply, nor with an
integer that is too long. Halves of characters are shown as escapes. -/
def payload? [TextKind τ] (m : Monitor τ) : Option String :=
  m.snapshot.bind fun s =>
    if s.isShallow && m.isShown && (m.payloadOf s).isWritable then some (m.payloadOf s).spaced
    else none

end GestureScript.Monitor
