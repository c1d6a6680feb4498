import GestureScript.Numeral
import GestureScript.Text.Quoted
import GestureScript.Text.Kind

/-!
# Faults

An error kind sorts failures for whoever reads a result. A fault is what broke
off an action; `Fault.message` words it.
-/

set_option autoImplicit false

namespace GestureScript

inductive ErrorKind where
  | unknown
  | permissionDenied
  | capabilityUnavailable
  | invalidCoordinates
  | focusTargetNotFound
  | textInputUnavailable
  | dispatchFailed
  | timeout
  | invalidState
  | boundaryViolation
  deriving DecidableEq, Repr

namespace ErrorKind

def all : List ErrorKind :=
  [.unknown, .permissionDenied, .capabilityUnavailable, .invalidCoordinates, .focusTargetNotFound,
   .textInputUnavailable, .dispatchFailed, .timeout, .invalidState, .boundaryViolation]

def name : ErrorKind → String
  | .unknown => "unknown"
  | .permissionDenied => "permission_denied"
  | .capabilityUnavailable => "capability_unavailable"
  | .invalidCoordinates => "invalid_coordinates"
  | .focusTargetNotFound => "focus_target_not_found"
  | .textInputUnavailable => "text_input_unavailable"
  | .dispatchFailed => "dispatch_failed"
  | .timeout => "timeout"
  | .invalidState => "invalid_state"
  | .boundaryViolation => "boundary_violation"

/-- The name in capitals. -/
def constant (k : ErrorKind) : String := String.ofList (k.name.toList.map Char.toUpper)

def ofName? (s : String) : Option ErrorKind := all.find? (fun k => k.name == s)

@[simp] theorem mem_all (k : ErrorKind) : k ∈ all := by cases k <;> decide

end ErrorKind

inductive Fault where
  | system (message : String)
  | runtime (message : String)
  | invalidValue (message : String)
  /-- The pointer was moved into a corner to stop everything. -/
  | failSafe (message : String)
  /-- A refusal that names its error kind. -/
  | refused (kind : ErrorKind) (reason : String)
  | refusedBecause (kind : ErrorKind) (reason : String) (cause : Fault)
  | unsupportedCommand (typeName : String)
  | notAResult (typeName : String)
  | shutDown
  | timedOut
  | durationTooLarge
  | sleepTooLong
  /-- A screen size has two numbers. -/
  | sizeOfLength (n : Nat)
  | noClipboard
  | historyTooSmall
  /-- A value that names no error kind, as messages show it. -/
  | unknownErrorKind (shown : List Char)
  /-- A path holds a null character. -/
  | nullInPath
  /-- A value is nested too deeply to be written. -/
  | nestedTooDeep
  | infiniteTime
  | undefinedTime
  /-- An integer has too many digits to be written. -/
  | integerTooLong
  /-- A text has halves of characters in it, which no encoding can write. -/
  | notEncodable (symbols : List Symbol)
  deriving DecidableEq, Repr

namespace Fault

/-- Names the halves that come first in a text, and where they are. -/
def encodingMessage (symbols : List Symbol) : String :=
  let place := (symbols.takeWhile (·.char?.isSome)).length
  let halves := ((symbols.drop place).takeWhile (·.half?.isSome)).filterMap Symbol.half?
  let found := match halves with
    | [h] =>
      " character '\\u" ++ String.ofList (Text.hex 4 h.unit) ++ "' in position " ++ toString place
    | _ =>
      " characters in position " ++ toString place ++ "-" ++ toString (place + halves.length - 1)
  "UnicodeEncodeError: 'utf-8' codec can't encode" ++ found ++ ": surrogates not allowed"

def message : Fault → String
  | .system message => message
  | .runtime message => message
  | .invalidValue message => message
  | .failSafe message => message
  | .refused _ reason => reason
  | .refusedBecause _ reason _ => reason
  | .unsupportedCommand typeName => "Unsupported command type: " ++ typeName
  | .notAResult typeName => "perform() returned " ++ typeName
  | .shutDown => "cannot schedule new futures after shutdown"
  | .timedOut => ""
  | .durationTooLarge => "int too large to convert to float"
  | .sleepTooLong => "timestamp too large to convert to C _PyTime_t"
  | .sizeOfLength n =>
    if n < 2 then "not enough values to unpack (expected 2, got " ++ toString n ++ ")"
    else "too many values to unpack (expected 2)"
  | .noClipboard => "No module named " ++ String.ofList (Text.quoted "pyperclip".toList)
  | .historyTooSmall => "history_size must be at least 1"
  | .unknownErrorKind shown => String.ofList shown ++ " is not a valid ErrorKind"
  | .nullInPath => "embedded null byte"
  | .nestedTooDeep =>
    "Error serializing to JSON: ValueError: Maximum serialization depth exceeded"
  | .infiniteTime => "cannot convert float infinity to integer"
  | .undefinedTime => "cannot convert float NaN to integer"
  | .integerTooLong =>
    "Exceeds the limit (" ++ toString Numeral.digitLimit ++ " digits) for integer string " ++
      "conversion; use sys.set_int_max_str_digits() to increase the limit"
  | .notEncodable symbols => "Error serializing to JSON: " ++ encodingMessage symbols

/-- A refusal with the fault behind it, if there is one. -/
def refusal (kind : ErrorKind) (reason : String) : Option Fault → Fault
  | none => .refused kind reason
  | some cause => .refusedBecause kind reason cause

end Fault

end GestureScript
