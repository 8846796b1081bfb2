import ScriptReview.CommandLine.Run
import ScriptReview.CommandLine.Usage

/-!
The program.

What a command does is decided by `CommandLine.perform`. Here the files are read before it, and text
and files are written after it.
-/

namespace ScriptReview
namespace CommandLine

/-- The number of a failure of the system. Some calls give it with a minus sign. -/
def errorNumber (code : UInt32) : Nat :=
  if code < 0x80000000 then code.toNat else (-code).toNat

/-- A failure of the system as a cause. -/
def accessErrorOf : IO.Error → AccessError
  | .noFileOrDirectory .. => .notFound
  | .inappropriateType _ code _ =>
    if errorNumber code = 21 then .isADirectory else .notADirectory
  | .invalidArgument _ code reason =>
    if errorNumber code = 36 then .nameTooLong else .other reason
  | .permissionDenied .. => .other "Permission denied (os error 13)"
  | error => .other (toString error)

/-- Do something with files, keeping the cause if it fails. -/
def attempt {α : Type} (action : IO α) : IO (Except AccessError α) := do
  match ← action.toBaseIO with
  | .ok value => return .ok value
  | .error error => return .error (accessErrorOf error)

def readFile (path : String) : IO (Except AccessError ByteArray) :=
  attempt (IO.FS.readBinFile path)

/-- Wait, in steps that the system takes. -/
def pause (milliseconds : Nat) : IO Unit := do
  let step : UInt32 := 1000000000
  for _ in [0:milliseconds / step.toNat] do
    IO.sleep step
  IO.sleep (milliseconds % step.toNat).toUInt32

/-- Show an outcome. -/
def report (outcome : Outcome) : IO UInt32 := do
  IO.eprint outcome.progress
  pause outcome.delay
  IO.eprint outcome.remarks
  IO.print outcome.output
  return outcome.exitCode.toUInt32

/-- Do what a command does. -/
def carryOut (effect : Effect) : IO UInt32 := do
  if effect.writesConfig then
    match ← attempt (IO.FS.writeFile Config.fileName Config.template) with
    | .ok () => report effect.outcome
    | .error cause => report (.failure 2 (ReviewError.accessMessage cause.message))
  else report effect.outcome

/-- Run a command on the files of the system. -/
def execute (invocation : Invocation) : IO UInt32 := do
  let files ← invocation.paths.mapM fun path => do return (path, ← readFile path)
  let input ←
    if invocation.readsInput then do (← IO.getStdin).readBinToEnd else pure ByteArray.empty
  let environment : Environment := ⟨← IO.getEnv "TERM", ← IO.getEnv "NO_COLOR"⟩
  carryOut (perform (.ofFiles files) input environment invocation)

/-- Say why there is no command to run. -/
def explain (error : UsageError) : IO UInt32 := do
  if error.exitCode = 0 then IO.print error.message else IO.eprint error.message
  return error.exitCode.toUInt32

end CommandLine
end ScriptReview

def main (arguments : List String) : IO UInt32 :=
  match ScriptReview.CommandLine.parse arguments with
  | .ok invocation => ScriptReview.CommandLine.execute invocation
  | .error error => ScriptReview.CommandLine.explain error
