import GestureScript.Settings.Environment

/-!
# The current settings

The environment is read when the settings are first asked for. After that the
settings stay as they are until they are forgotten.
-/

set_option autoImplicit false

namespace GestureScript

/-- The environment, and the settings that were made of it if they were asked for. -/
structure CurrentSettings where
  platform : Platform
  environment : Environment
  settings : Option Settings

namespace CurrentSettings

/-- Settings that were not asked for. -/
def start (platform : Platform) (env : Environment) : CurrentSettings := ⟨platform, env, none⟩

def forget (c : CurrentSettings) : CurrentSettings := { c with settings := none }

def current (c : CurrentSettings) : Settings :=
  c.settings.getD (Settings.ofEnvironment c.platform c.environment)

/-- What is left after the settings were asked for. -/
def asked (c : CurrentSettings) : CurrentSettings := { c with settings := some c.current }

@[simp] theorem current_asked (c : CurrentSettings) : c.asked.current = c.current := rfl

@[simp] theorem asked_asked (c : CurrentSettings) : c.asked.asked = c.asked := rfl

end CurrentSettings

namespace Settings

/-- A value for a field from data. Seconds may be given as a whole number. -/
def Value.ofJson? : Value → Json → Option Value
  | .whole _, .int n => some (.whole n)
  | .seconds _, .int n => some (.seconds ((Binary64.ofInt? n).getD (.infinite (n < 0))))
  | .seconds _, .real x => some (.seconds x)
  | .keys _, .array ks =>
    some (.keys (ks.filterMap fun k => match k with | .text s => some s | _ => none))
  | _, _ => none

/-- Settings with some fields replaced, unless one of the names is not a field's. -/
def replace? (s : Settings) : List (String × Json) → Option Settings
  | [] => some s
  | (name, j) :: es =>
    match Field.ofName? name with
    | none => none
    | some f => replace? (((s.get f).ofJson? j).elim s (s.set f)) es

end Settings

end GestureScript
