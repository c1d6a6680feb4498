import GestureScript.Capability.Worker
import GestureScript.Command.Display

/-!
# Playback of prepared endings

A worker that ends performances as was laid down for it: by the kind of the
command, or else one ending after the other, or else with a plain success.
-/

set_option autoImplicit false

namespace GestureScript

/-- How one performance goes: it may be held before it ends. -/
structure Playback.Part where
  held : Bool
  ending : Ending

structure Playback where
  ready : Bool := true
  parts : List Playback.Part := []
  byKind : List (Command.Kind × Playback.Part) := []
  executed : List Command := []

namespace Playback

def standard : Part := ⟨false, .returned (.success ⟨"ok", none⟩)⟩

/-- The part for a command, and the parts left after it. -/
def next (p : Playback) (c : Command) : Part × List Part :=
  match p.byKind.lookup c.kind, p.parts with
  | some part, parts => (part, parts)
  | none, part :: parts => (part, parts)
  | none, [] => (standard, [])

def perform : Submission → Playback → Attempt × Playback
  | .command c, p =>
    let (part, parts) := p.next c
    (⟨[], part.ending, part.held⟩, { p with parts := parts, executed := p.executed ++ [c] })
  | .other typeName, p => (⟨[], .raised (.unsupportedCommand typeName), false⟩, p)

def worker : Worker Playback where
  isReady p := (p.ready, p)
  perform := perform

end Playback

end GestureScript
