import GestureScript.Element.Schema
import GestureScript.Monitor.Listener

/-!
# What a monitor is given

The platform names the application in the foreground, but what it passes on may be any value,
and the name may be given by its bytes or by a member of an enumeration. A transition to it is
checked like all data before anything is remembered, so that a value which is no name leaves
everything as it was. What is remembered is the value that was passed on.
-/

set_option autoImplicit false

namespace GestureScript

namespace Json

def text? : Json → Option String
  | .text s => some s
  | _ => none

/-- Zero, false, and whatever has nothing in it. -/
def isVoid : Json → Bool
  | .null => true
  | .bool b => !b
  | .int n => n == 0
  | .real x => x.toInt? == some 0
  | .text s => s.isEmpty
  | .array items => items.isEmpty
  | .object entries => entries.isEmpty

end Json

/-- A value that should name the application in the foreground. -/
inductive Passed where
  | data (v : Json)
  | bytes (b : ByteArray)
  | member (m : Member)

namespace Passed

def isVoid : Passed → Bool
  | data v => v.isVoid
  | bytes b => b.size == 0
  | member _ => false

def package? : Passed → Option Package
  | data v => v.text?.map .text
  | bytes b => (String.fromUTF8? b).map .encoded
  | member m => some (.member m)

/-- The value as it is checked. Bytes are taken for the text that they encode, and a member of
an enumeration for its value. -/
def decoded? : Passed → Option Json
  | data v => some v
  | bytes b => (String.fromUTF8? b).map .text
  | member m => some (.text m.text)

end Passed

/-- Take note of a value that should name the application in the foreground. -/
def Monitor.observe (m : Monitor) (now : ClockReading) (value : Passed) :
    Monitor × Option Transition :=
  if value.isVoid || value.package?.any (fun p => m.foreground == some p) then (m, none)
  else
    match now with
    | .error _ => (m, none)
    | .ok now =>
      match value.decoded? with
      | none => (m, none)
      | some v =>
        let entries := [(Key.previousPackage.snake,
          Element.textOrNull (m.foreground.map Package.name)), (Key.newPackage.snake, v)]
        match Transition.ofJson now (.object entries) with
        | .invalid _ => (m, none)
        | .valid t => ({ m with foreground := value.package?, lastTransition := some t }, some t)

theorem Transition.ofJson_texts (now : Int) (previous : Option String) (package : String) :
    Transition.ofJson now (.object [(Key.previousPackage.snake, Element.textOrNull previous),
      (Key.newPackage.snake, .text package)]) = .valid ⟨previous, package, now⟩ := by
  cases previous <;> rfl

theorem Transition.ofJson_of_text?_eq_none (now : Int) (previous : Option String) {value : Json}
    (h : value.text? = none) :
    ∃ cs, Transition.ofJson now (.object [(Key.previousPackage.snake, Element.textOrNull previous),
      (Key.newPackage.snake, value)]) = .invalid cs := by
  cases value with
  | text s => cases h
  | _ => cases previous <;> exact ⟨_, rfl⟩

namespace Passed

theorem eq_toUTF8_of_fromUTF8? {b : ByteArray} {s : String} (h : String.fromUTF8? b = some s) :
    b = s.toUTF8 := by
  unfold String.fromUTF8? at h
  split at h
  next hvalid =>
    cases h
    rfl
  next => cases h

/-- A package is checked by its name, and is void if it is empty. -/
theorem of_package?_eq_some {value : Passed} {p : Package} (h : value.package? = some p) :
    value.decoded? = some (.text p.name) ∧ value.isVoid = p.isEmpty := by
  cases value with
  | data v =>
    obtain ⟨s, hs, rfl⟩ := Option.map_eq_some_iff.mp h
    obtain rfl : v = .text s := by
      cases v <;> first | exact congrArg Json.text (Option.some.inj hs) | cases hs
    exact ⟨rfl, rfl⟩
  | bytes b =>
    obtain ⟨s, hs, rfl⟩ := Option.map_eq_some_iff.mp h
    obtain rfl := eq_toUTF8_of_fromUTF8? hs
    exact ⟨by rw [decoded?, hs]; rfl, rfl⟩
  | member m =>
    obtain rfl := Option.some.inj h
    exact ⟨rfl, rfl⟩

theorem text?_of_package?_eq_none {value : Passed} (h : value.package? = none) {v : Json}
    (hv : value.decoded? = some v) : v.text? = none := by
  cases value with
  | data w =>
    obtain rfl := Option.some.inj hv
    exact Option.map_eq_none_iff.mp h
  | bytes b =>
    rw [decoded?, Option.map_eq_none_iff.mp h] at hv
    cases hv
  | member m => cases h

end Passed

/-- Only a package can name an application. -/
theorem Monitor.observe_eq (m : Monitor) (now : ClockReading) (value : Passed) :
    m.observe now value = m.seeForeground now value.package? := by
  cases now with
  | error f =>
    rw [seeForeground_error, observe]
    split <;> rfl
  | ok now =>
    cases h : value.package? with
    | none =>
      rw [seeForeground_none]
      cases hv : value.decoded? with
      | none => simp [observe, hv]
      | some v =>
        obtain ⟨cs, hcs⟩ := Transition.ofJson_of_text?_eq_none now
          (m.foreground.map Package.name) (Passed.text?_of_package?_eq_none h hv)
        simp [observe, hv, hcs]
    | some p =>
      obtain ⟨hdecoded, hvoid⟩ := Passed.of_package?_eq_some h
      simp [observe, seeForeground, hdecoded, hvoid, h, Transition.ofJson_texts]

namespace Audience

def observe (now : ClockReading) (value : Passed) (a : Audience) : Audience :=
  match a.monitor.observe now value with
  | (_, none) => a
  | (m, some t) =>
    tell (seeForeground (depthLimit - 1) now) .transitions (.transition t) a.transitionListeners
      { a with monitor := m }

/-- What reaches a monitor: a value for the application in the foreground, or an operation. -/
inductive Input where
  | value (now : ClockReading) (v : Passed)
  | operation (op : Operation)

def give (a : Audience) : Input → Audience
  | .value now v => a.observe now v
  | .operation op => a.apply op

def attend (a : Audience) (inputs : List Input) : Audience := inputs.foldl give a

def Input.toOperation : Input → Operation
  | .value now v => .foreground now v.package?
  | .operation op => op

theorem give_eq_apply (a : Audience) (i : Input) : a.give i = a.apply i.toOperation := by
  cases i with
  | operation op => rfl
  | value now v =>
    show a.observe now v = a.seeForeground depthLimit now v.package?
    rw [observe, Monitor.observe_eq]
    rfl

theorem attend_eq_run (a : Audience) (inputs : List Input) :
    a.attend inputs = a.run (inputs.map Input.toOperation) := by
  rw [attend, run, List.foldl_map]
  congr 1
  funext a i
  exact a.give_eq_apply i

end Audience

end GestureScript
