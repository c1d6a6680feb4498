import GestureScript.Element.Schema

/-!
# The monitor of a screen

The monitor remembers the latest snapshot, the application in the foreground,
the last transition, and the latest snapshots up to a fixed number. Whatever is
not a snapshot or not the name of an application is ignored, and so is a name at
a moment that the clock cannot tell.
-/

set_option autoImplicit false

namespace GestureScript

/-- The time in milliseconds, or what is wrong with the clock. -/
abbrev ClockReading := Except Fault Int

/-- A member of an enumeration, and its value as a text. -/
structure Member where
  enumeration : String
  name : String
  text : String
  deriving DecidableEq, Repr

/-- The name of an application as it was passed on: a text, the bytes that encode one, or a
member of an enumeration. These are different values, which may have the same name. -/
inductive Package (τ : Type := String) where
  | text (name : τ)
  | encoded (name : String)
  | member (m : Member)
  deriving DecidableEq, Repr

namespace Package

def name : Package → String
  | text s => s
  | encoded s => s
  | member m => m.text

/-- A member of an enumeration is something, whatever its value is. -/
def isEmpty : Package → Bool
  | text s => s.isEmpty
  | encoded s => s.isEmpty
  | member _ => false

/-- The text of a package that is one. -/
def text? {τ : Type} : Package τ → Option τ
  | text s => some s
  | encoded _ | member _ => none

end Package

structure Monitor (τ : Type := String) where
  capacity : Nat
  snapshot : Option (Snapshot τ) := none
  foreground : Option (Package τ) := none
  lastTransition : Option (Transition τ) := none
  /-- Oldest first. -/
  history : List (Snapshot τ) := []
  deriving Repr

namespace Monitor

/-- A monitor that keeps at least one snapshot. -/
def create? (historySize : Int) : Option Monitor :=
  if historySize < 1 then none else some { capacity := historySize.toNat }

/-- The last `n` items. -/
def lastItems {α : Type} (n : Nat) (xs : List α) : List α := xs.drop (xs.length - n)

/-- Take note of the application in the foreground. Another one than before makes
a transition. -/
def seeForeground (m : Monitor) (now : ClockReading) (package : Option Package) :
    Monitor × Option Transition :=
  match now, package with
  | .ok now, some p =>
    if p.isEmpty || m.foreground = some p then (m, none)
    else
      let t : Transition := ⟨m.foreground.map Package.name, p.name, now⟩
      ({ m with foreground := some p, lastTransition := some t }, some t)
  | _, _ => (m, none)

/-- Take note of what is on the screen. -/
def seeSnapshot {τ : Type} (m : Monitor τ) (snapshot : Option (Snapshot τ)) : Monitor τ :=
  match snapshot with
  | none => m
  | some s =>
    { m with snapshot := some s, history := lastItems m.capacity (m.history ++ [s]) }

/-- Forget everything that was seen. -/
def reset (m : Monitor) : Monitor := { capacity := m.capacity }

@[simp] theorem seeForeground_none (m : Monitor) (now : ClockReading) :
    m.seeForeground now none = (m, none) := by cases now <;> rfl

@[simp] theorem seeForeground_error (m : Monitor) (f : Fault) (package : Option Package) :
    m.seeForeground (.error f) package = (m, none) := by cases package <;> rfl

@[simp] theorem seeSnapshot_none (m : Monitor) : m.seeSnapshot none = m := rfl

@[simp] theorem reset_reset (m : Monitor) : m.reset.reset = m.reset := rfl

end Monitor

end GestureScript
