import Mathlib
import Rowscript.CommandLine.Invocation

/-!
# Main — the program

Reads the files that a command line names, lets the library say what happens, and lets it happen.
Only waits take time, so a signal is looked for in waits: it is an interrupt from outside, and the
library says once more what happens.  What has happened so far it says again, since an interrupt
changes nothing before it arrives.
-/

namespace Rowscript.CommandLine

/-- What a file holds, or why it cannot be read. -/
def readFileText (path : String) : IO (Except ReadFault String) := do
  try
    let bytes ← IO.FS.readBinFile path
    match String.fromUTF8? bytes with
    | some text => return .ok text
    | none => return .error .notText
  catch
    | .noFileOrDirectory .. => return .error .notFound
    | .permissionDenied .. => return .error .denied
    | .inappropriateType .. => return .error .notDirectory
    | _ => return .error .isDirectory

/-- The files that a request may read. -/
def readFiles (environment : Environment) (request : Request) : IO Files := do
  let paths := match request with
    | .run _ r => (r.config.orElse fun _ => environment.configPath?).toList ++ r.scripts
    | _ => []
  let contents ← paths.mapM fun path => return (path, ← readFileText path)
  return fun path => (contents.lookup path).getD (.error .notFound)

/-- Colours are wanted: if the environment says so, and else on a terminal. -/
def wantsColours : IO Bool := do
  match ← IO.getEnv "CLICOLOR_FORCE", ← IO.getEnv "NO_COLOR" with
  | some force, _ => return force != "0"
  | none, some _ => return false
  | none, none => (← IO.getStdout).isTty

/-! ## Effects -/

/-- Sleeps for some milliseconds, or until the signal comes; tells whether it has come. -/
def sleep (signal : Std.Async.AsyncTask Int) (ms : Nat) : IO Bool := do
  let start ← IO.monoMsNow
  for _ in [0:ms] do
    let past := (← IO.monoMsNow) - start
    if past ≥ ms || (← IO.hasFinished signal) then break
    IO.sleep (min 20 (ms - past)).toUInt32
  IO.hasFinished signal

/-- Lets an effect happen; a record only if it is shown.  Tells whether it was a wait that the signal
cut short. -/
def Effect.perform (filter : LogFilter) (signal : Std.Async.AsyncTask Int) : Effect → IO Bool
  | .print text => do
    IO.print text
    (← IO.getStdout).flush
    return false
  | .record r => do
    if filter.shows r then IO.eprintln (Transcript.recordLine r)
    return false
  | .wait ms => sleep signal ms

/-- Lets effects happen in order, up to a wait that the signal cuts short; tells how many did, that
wait with them, if there was one. -/
def performAll (filter : LogFilter) (signal : Std.Async.AsyncTask Int) (done : Nat) :
    List Effect → IO (Option Nat)
  | [] => return none
  | effect :: effects => do
    if ← effect.perform filter signal then return some (done + 1)
    performAll filter signal (done + 1) effects

/-- **Does what is asked for.**  When the signal comes, what is left to do is what the request asks
for with an interrupt in that wait. -/
def Request.fulfil (request : Request) (surroundings : Surroundings) (filter : LogFilter)
    (signal : Std.Async.AsyncTask Int) : IO Transcript := do
  let transcript := request.perform surroundings
  match ← performAll filter signal 0 transcript.effects with
  | none => return transcript
  | some done =>
    let outside := Effect.arrival (transcript.effects.take done)
    let transcript := request.perform { surroundings with outside := outside }
    let _ ← performAll filter signal 0 (.record .signalled :: transcript.effects.drop done)
    return transcript

end Rowscript.CommandLine

open Rowscript Rowscript.CommandLine

/-- The program. -/
def main (args : List String) : IO UInt32 := do
  match Request.parse? args with
  | none =>
    IO.eprint helpText
    return misuseStatus.toUInt32
  | some request =>
    let environment : Environment :=
      ⟨← IO.getEnv "HOME", ← IO.getEnv "XDG_CONFIG_HOME", ← IO.getEnv "SELENESE_CONFIG"⟩
    let surroundings : Surroundings :=
      { files := ← readFiles environment request
        environment := environment
        coloured := ← wantsColours }
    let filter := LogFilter.ofEnvironment (← IO.getEnv "RUST_LOG") request.isVerbose
    let signal ← (← Std.Async.Signal.Waiter.mk .sigint false).wait
    let transcript ← request.fulfil surroundings filter signal
    if let some fault := transcript.fault then IO.eprintln (Transcript.faultLine fault)
    return transcript.status.toUInt32
