import GestureScript.Console.Session
import GestureScript.Settings.Environment

/-!
# The program

Reads the command line, the environment and the script, and prints what the
session shows. There is no desktop to work on here, so only dry runs succeed.
-/

set_option autoImplicit false

namespace GestureScript.Console

def usage : String := "usage: gesturescript [-h] [-v] (run | parse) ... [script]"

def faultOf : IO.Error → FileFault
  | .noFileOrDirectory .. => .missing
  | .inappropriateType .. => .isDirectory
  | .permissionDenied .. => .forbidden
  | _ => .missing

def contentsOfBytes (bytes : ByteArray) : Contents :=
  match String.fromUTF8? bytes with
  | some text => .script text
  | none => .notText

def readSource : Source → IO Contents
  | .standardInput => do return contentsOfBytes (← (← IO.getStdin).readBinToEnd)
  | .file path =>
    if path.contains '\x00' then return .nowhere
    else tryCatch (do return contentsOfBytes (← IO.FS.readBinFile path)) fun e =>
      return .unreadable path (faultOf e)

def readEnvironment : IO Environment := do
  let values ← Settings.Field.all.mapM fun f => do
    return (f.variableName, ← IO.getEnv f.variableName)
  return fun name => (values.lookup name).join

def start (argv : List String) : IO UInt32 := do
  match Options.read argv with
  | .error stop =>
    (if stop = .help then IO.println usage else IO.eprintln usage)
    return stop.exitCode.toUInt32
  | .ok options =>
    let contents ← readSource options.source
    -- without a desktop there are no shortcuts, so any platform will do
    let settings := Settings.ofEnvironment .controlKey (← readEnvironment)
    let report := Session.report settings none options.task contents
    IO.print (String.ofList report.output)
    match report.ending with
    | .exited code => return code.toUInt32
    | .notText => IO.eprintln "the script is not text" *> return 1
    | .badMarkup f => IO.eprintln f.message *> return 1
    | .broken f => IO.eprintln f.message *> return 1

end GestureScript.Console

def main (argv : List String) : IO UInt32 := GestureScript.Console.start argv
