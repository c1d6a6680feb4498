import GestureScript.Console.Word

/-!
# Options

The command line names a task, and may name the script that the task is about.
Reading it stops early if help is asked for or a word does not fit.
-/

set_option autoImplicit false

namespace GestureScript.Console

inductive Task where
  | run (dryRun keepGoing : Bool)
  | parse (asJson : Bool)
  deriving DecidableEq, Repr

structure Options where
  verbose : Bool
  task : Task
  /-- Where the script is. -/
  path : Option String
  deriving DecidableEq, Repr

/-- Why there is nothing to do. -/
inductive Stop where
  | help
  | misuse
  deriving DecidableEq, Repr

def Stop.exitCode : Stop → Nat
  | .help => 0
  | .misuse => 2

inductive Flag where
  | help
  | verbose
  | dryRun
  | keepGoing
  | json
  deriving DecidableEq, Repr

namespace Options

def helpSpellings : Spellings Flag := [("-h".toList, .help), ("--help".toList, .help)]

def mainSpellings : Spellings Flag :=
  helpSpellings ++ [("-v".toList, .verbose), ("--verbose".toList, .verbose)]

def runSpellings : Spellings Flag :=
  helpSpellings ++ [("--dry-run".toList, .dryRun), ("--keep-going".toList, .keepGoing)]

def parseSpellings : Spellings Flag := helpSpellings ++ [("--json".toList, .json)]

/-- What was read of the words behind the name of a task. -/
structure Reading where
  flags : List Flag := []
  /-- Set once the place of the script was passed, even if it was left empty. -/
  path : Option (Option String) := none
  hasExtra : Bool := false
  deriving DecidableEq, Repr

namespace Reading

def extra (r : Reading) : Reading := { r with hasExtra := true }

/-- Only the first value is the path. -/
def value (r : Reading) (s : Option String) : Reading :=
  if r.path.isSome then r.extra else { r with path := some s }

def take (r : Reading) (fs : List Flag) : Reading := { r with flags := r.flags ++ fs }

end Reading

/-- Read words in order. A mark next to the path belongs to it. -/
def readWords (r : Reading) : List (Word Flag) → Except Stop Reading
  | [] => .ok r
  | .flags fs :: ws => if .help ∈ fs then .error .help else readWords (r.take fs) ws
  | .misused :: _ => .error .misuse
  | .unknown :: ws => readWords r.extra ws
  | .mark :: .value s :: ws => readWords (r.value (some s)) ws
  | .mark :: ws => readWords (r.value none) ws
  | .value s :: .mark :: ws => readWords (r.value (some s)) ws
  | .value s :: ws => readWords (r.value (some s)) ws

def readBehind (table : Spellings Flag) (ss : List String) : Except Stop Reading :=
  match Word.readAll table ss with
  | none => .error .misuse
  | some words => readWords {} words

/-- The flags of a task, and what they make of it. -/
def task? (name : String) : Option (Spellings Flag × (List Flag → Task)) :=
  if name = "run" then some (runSpellings, fun fs => .run (.dryRun ∈ fs) (.keepGoing ∈ fs))
  else if name = "parse" then some (parseSpellings, fun fs => .parse (.json ∈ fs))
  else none

def readTask (verbose hasExtra : Bool) (name : String) (ss : List String) : Except Stop Options :=
  match task? name with
  | none => .error .misuse
  | some (table, task) => do
    let r ← readBehind table ss
    if hasExtra || r.hasExtra then .error .misuse
    else .ok ⟨verbose, task r.flags, r.path.join⟩

/-- Read up to the name of the task, with the words beside the command line. -/
def readMain (verbose hasExtra : Bool) : List (Word Flag) → List String → Except Stop Options
  | .flags fs :: ws, _ :: ss =>
    if .help ∈ fs then .error .help else readMain (verbose || .verbose ∈ fs) hasExtra ws ss
  | .unknown :: ws, _ :: ss => readMain verbose true ws ss
  | .value name :: _, _ :: ss => readTask verbose hasExtra name ss
  | _, _ => .error .misuse

def read (ss : List String) : Except Stop Options :=
  match Word.readAll mainSpellings ss with
  | none => .error .misuse
  | some words => readMain false false words ss

end Options

end GestureScript.Console
