import GestureScript.Binary64.Basic
import GestureScript.Command.Basic
import GestureScript.Json.Basic

/-!
# Settings

Default durations of gestures in milliseconds, timings in seconds, the size of
the history, and the keys that stand for the system buttons.
-/

set_option autoImplicit false

namespace GestureScript

/-- Desktops differ only in whether their shortcuts use the command key. -/
inductive Platform where
  | commandKey
  | controlKey
  deriving DecidableEq, Repr

namespace Platform

def ofName (name : String) : Platform := if name = "Darwin" then .commandKey else .controlKey

/-- The key held to select everything and to paste. -/
def modifier : Platform → String
  | .commandKey => "command"
  | .controlKey => "ctrl"

/-- The keys for a system button. -/
def hotkey : Platform → Button → List String
  | .commandKey, .back => ["command", "["]
  | .commandKey, .home => ["command", "h"]
  | .commandKey, .recents => ["command", "tab"]
  | .controlKey, .back => ["alt", "left"]
  | .controlKey, .home => ["win", "d"]
  | .controlKey, .recents => ["alt", "tab"]

end Platform

structure Settings where
  tapDuration : Int
  swipeDuration : Int
  scrollDuration : Int
  historySize : Int
  /-- The pause between the commands of a script, in seconds. -/
  commandDelay : Binary64
  /-- How long a script waits for a result, in seconds. -/
  resultTimeout : Binary64
  /-- Wheel clicks of a scroll. -/
  scrollAmount : Int
  /-- The pause between keystrokes, in seconds. -/
  typingInterval : Binary64
  backHotkey : List String
  homeHotkey : List String
  recentsHotkey : List String
  deriving DecidableEq, Repr

namespace Settings

def defaultHistorySize : Int := 10

/-- The settings that nothing was changed in. The hotkeys are those of the platform. -/
def default (platform : Platform := .controlKey) : Settings where
  tapDuration := Command.defaultTapDuration
  swipeDuration := Command.defaultSwipeDuration
  scrollDuration := Command.defaultScrollDuration
  historySize := defaultHistorySize
  commandDelay := .ofDecimal false 5 (-1)
  resultTimeout := .ofDecimal false 30 0
  scrollAmount := 5
  typingInterval := .ofDecimal false 2 (-2)
  backHotkey := platform.hotkey .back
  homeHotkey := platform.hotkey .home
  recentsHotkey := platform.hotkey .recents

def hotkey (s : Settings) : Button → List String
  | .back => s.backHotkey
  | .home => s.homeHotkey
  | .recents => s.recentsHotkey

inductive Field where
  | tapDuration
  | swipeDuration
  | scrollDuration
  | historySize
  | commandDelay
  | resultTimeout
  | scrollAmount
  | typingInterval
  | hotkey (button : Button)
  deriving DecidableEq, Repr

namespace Field

def all : List Field :=
  [.tapDuration, .swipeDuration, .scrollDuration, .historySize, .commandDelay, .resultTimeout,
   .scrollAmount, .typingInterval, .hotkey .back, .hotkey .home, .hotkey .recents]

def name : Field → String
  | .tapDuration => "tap_duration_ms"
  | .swipeDuration => "swipe_duration_ms"
  | .scrollDuration => "scroll_duration_ms"
  | .historySize => "history_size"
  | .commandDelay => "inter_command_delay"
  | .resultTimeout => "result_timeout"
  | .scrollAmount => "scroll_amount"
  | .typingInterval => "typing_interval"
  | .hotkey button => button.name ++ "_hotkey"

def ofName? (s : String) : Option Field := all.find? (fun f => f.name == s)

@[simp] theorem mem_all (f : Field) : f ∈ all := by
  cases f <;> first | decide | rename_i b; cases b <;> decide

end Field

/-- What a field holds. -/
inductive Value where
  | whole (n : Int)
  | seconds (x : Binary64)
  | keys (ks : List String)
  deriving DecidableEq, Repr

def get (s : Settings) : Field → Value
  | .tapDuration => .whole s.tapDuration
  | .swipeDuration => .whole s.swipeDuration
  | .scrollDuration => .whole s.scrollDuration
  | .historySize => .whole s.historySize
  | .commandDelay => .seconds s.commandDelay
  | .resultTimeout => .seconds s.resultTimeout
  | .scrollAmount => .whole s.scrollAmount
  | .typingInterval => .seconds s.typingInterval
  | .hotkey button => .keys (s.hotkey button)

/-- A value of another kind than the field's leaves the settings as they are. -/
def set (s : Settings) : Field → Value → Settings
  | .tapDuration, .whole n => { s with tapDuration := n }
  | .swipeDuration, .whole n => { s with swipeDuration := n }
  | .scrollDuration, .whole n => { s with scrollDuration := n }
  | .historySize, .whole n => { s with historySize := n }
  | .commandDelay, .seconds x => { s with commandDelay := x }
  | .resultTimeout, .seconds x => { s with resultTimeout := x }
  | .scrollAmount, .whole n => { s with scrollAmount := n }
  | .typingInterval, .seconds x => { s with typingInterval := x }
  | .hotkey .back, .keys ks => { s with backHotkey := ks }
  | .hotkey .home, .keys ks => { s with homeHotkey := ks }
  | .hotkey .recents, .keys ks => { s with recentsHotkey := ks }
  | _, _ => s

theorem get_set_ne {f g : Field} (h : g ≠ f) (s : Settings) (v : Value) :
    (s.set f v).get g = s.get g := by
  cases f <;> cases v <;> cases g <;>
    first
    | rfl
    | exact absurd rfl h
    | (rename_i b _; cases b <;> rfl)
    | (rename_i b _ c; cases b <;> cases c <;> first | rfl | exact absurd rfl h)

end Settings

end GestureScript
