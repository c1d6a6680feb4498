import GestureScript.Capability.Rig
import GestureScript.Command.Schema
import GestureScript.Console.Layout
import GestureScript.Console.Markup
import GestureScript.Console.Source
import GestureScript.Json.Writer
import GestureScript.Pipeline.Script

/-!
# Sessions

A session runs a script, or lists its commands, and ends with an exit code. A run
shows every status as it comes. Only a listing reads markup in what it shows.
-/

set_option autoImplicit false

namespace GestureScript.Console

inductive Ending where
  | exited (code : Nat)
  | notText
  | badMarkup (f : MarkupFault)
  | broken (f : Fault)
  deriving DecidableEq, Repr

/-- What a session leaves behind. -/
structure Report where
  ending : Ending
  output : List Char := []
  calls : List DeviceCall := []
  deriving DecidableEq, Repr

namespace Session

def icon : StatusKind → Char
  | .notUnderstood => '?'
  | .dispatched => '→'
  | .succeeded => '✓'
  | .failed => '✗'

/-- A status is shown with the name of its error kind, if it has one. -/
def statusChars (s : Status) : List Char :=
  ' ' :: ' ' :: icon s.kind :: ' ' :: s.message.toList ++
    (s.errorKind.elim [] fun k => " [".toList ++ k.name.toList ++ [']'])

/-- How many of the commands succeeded. -/
def summaryChars (outcomes : List Outcome) : List Char :=
  "\n  ".toList ++ (Nat.toDigits 10 (outcomes.countP (·.isSuccess))) ++
    '/' :: (Nat.toDigits 10 outcomes.length) ++ " commands succeeded".toList

/-- A run fails if a command failed. -/
def runExitCode (outcomes : List Outcome) : Nat := if outcomes.any (·.isFailure) then 1 else 0

theorem runExitCode_eq_one_iff (outcomes : List Outcome) :
    runExitCode outcomes = 1 ↔ ∃ o ∈ outcomes, o.isFailure = true := by
  unfold runExitCode
  split <;> simp_all

/-- What runs the commands: a desktop, if there is one. -/
def rig (dryRun : Bool) (workplace : Option Workplace) : Rig :=
  if dryRun then .dryRun {} else .desktop { workplace := workplace }

/-- Run a script on a worker, whichever it is. -/
def runOn {σ : Type} (w : Worker σ) (state : σ) (settings : Settings) (keepGoing : Bool)
    (script : String) : Report :=
  match Pipeline.create? settings (.listening fun _ => false) with
  | .error f => { ending := .broken f }
  | .ok p =>
    let p := { p with pauseFault? := Clock.sleepFault? }
    let (result, p) := (p.attach (some { state := state })).runScript w (!keepGoing) script
    let p := p.shutDown
    let shown := p.statuses.flatMap (Layout.text ∘ statusChars)
    match result with
    | .error f => { ending := .broken f, output := shown, calls := p.calls }
    | .ok outcomes =>
      { ending := .exited (runExitCode outcomes)
        output := shown ++ Layout.text (summaryChars outcomes)
        calls := p.calls }

/-- Run a script on a rig, at whatever pace it performs. What outlasts the wait for it is in
progress until everything is shut down. -/
def run (settings : Settings) (r : Rig) (keepGoing : Bool) (script : String)
    (pace : Submission → Rig → Pace := fun _ _ => .atOnce) : Report :=
  runOn (Rig.worker.paced settings.resultTimeout pace) r settings keepGoing script

def listing (commands : List Command) : Except MarkupFault (List Char) :=
  (commands.mapM fun c => Markup.shown c.displayChars).map (·.flatMap Layout.text)

def listedData (commands : List Command) : Json := .array (commands.map Command.toJson)

def jsonListing (commands : List Command) : List Char :=
  Json.indentedChars 0 (listedData commands) ++ ['\n']

def parse (settings : Settings) (asJson : Bool) (script : String) : Report :=
  let commands := Script.commands settings script
  if asJson then
    if (listedData commands).isWritable then { ending := .exited 0, output := jsonListing commands }
    else { ending := .broken .integerTooLong }
  else match listing commands with
    | .ok shown => { ending := .exited 0, output := shown }
    | .error f => { ending := .badMarkup f }

def complaint (message : String) : List Char :=
  "  [#f85149]Cannot read script: ".toList ++ Markup.escape message.toList ++ "[/]".toList

/-- What is left of a script that was not read, once the complaint about it is shown. -/
def unread : Except MarkupFault (List Char) → Report
  | .ok shown => { ending := .exited 2, output := Layout.text shown }
  | .error f => { ending := .badMarkup f }

def report (settings : Settings) (workplace : Option Workplace) (task : Task)
    (contents : Contents) (pace : Submission → Rig → Pace := fun _ _ => .atOnce) : Report :=
  match contents with
  | .script text =>
    match task with
    | .run dryRun keepGoing => run settings (rig dryRun workplace) keepGoing text pace
    | .parse asJson => parse settings asJson text
  | .notText => { ending := .notText }
  | .nowhere => { ending := .broken .nullInPath }
  | .unreadable path f => unread (Markup.shown (complaint (f.message path)))

end Session

end GestureScript.Console
