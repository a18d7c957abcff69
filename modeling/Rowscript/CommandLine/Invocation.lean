import Rowscript.Assignment
import Rowscript.CommandLine.Request
import Rowscript.CommandLine.Transcript
import Rowscript.Report.Json
import Rowscript.Report.Summary
import Rowscript.Run
import Rowscript.Script.Load
import Rowscript.Settings.Load

/-!
# CommandLine/Invocation — doing what a command line asks for

Before any script is run everything is read: the settings, the assignments and all scripts, in this
order, and the first fault is the only one.  Each script then runs on a state of its own, and its
calls are only recorded; the scripts share the interrupt alone.
-/

namespace Rowscript.CommandLine

/-- What a command line finds. -/
structure Surroundings where
  files : Files
  environment : Environment := {}
  coloured : Bool := false
  /-- The interrupt when the first script starts. -/
  interrupt : Interrupt := .clear
  /-- When somebody else sets it, for each script by its number, from zero. -/
  outside : Nat → Outside := fun _ => {}

/-! ## Reading -/

/-- What is read before any script runs. -/
structure Plan where
  continueOnFailure : Bool
  settings : Variables
  assignments : List Assignment
  scripts : List Script

/-- The settings: those in the file that is asked for, or the usual ones. -/
def RunRequest.settings (r : RunRequest) (s : Surroundings) : Except Fault Settings :=
  (match r.config with
    | some path => Settings.load s.files path
    | none => Settings.loadUsual s.files s.environment).mapError Settings.LoadFault.toFault

/-- **Reads everything**: the settings, the assignments, the scripts. -/
def RunRequest.plan (r : RunRequest) (s : Surroundings) : Except Fault Plan :=
  (r.settings s).bind fun settings =>
    (r.assignments.mapM Assignment.parse).bind fun assignments =>
      (r.scripts.mapM fun path =>
        (Script.load s.files path).mapError Script.LoadFault.toFault).map fun scripts =>
          ⟨r.continueOnFailure || settings.continueOnFailure, settings.vars, assignments,
            scripts⟩

/-- **The variables a script starts with**: those of the settings, under its own, under the
assignments. -/
def Plan.startVars (p : Plan) (script : Script) : Variables :=
  p.assignments.foldl (fun v a => v.insert a.name a.value) (p.settings.overlay script.vars)

/-- A script with the variables it starts with. -/
def Plan.prepare (p : Plan) (script : Script) : Script :=
  { script with vars := p.startVars script }

/-! ## Running -/

/-- What comes of a script: its effects, and a report unless a fault stopped the run. -/
structure ScriptResult where
  effects : List Effect
  report : Except Fault Report
  /-- The interrupt behind the run. -/
  interrupt : Interrupt

/-- **The world of a dry run**: every call is answered by nothing, and recorded. -/
def dryWorld (outside : Outside) : World where
  toOutside := outside
  driver := fun _ => { isNoted := true }

/-- Runs a script for itself. -/
def Plan.runScript (p : Plan) (outside : Outside) (interrupt : Interrupt) (script : Script) :
    ScriptResult :=
  let (report, state) :=
    (p.prepare script).run (dryWorld outside) p.continueOnFailure { interrupt := interrupt }
  ⟨Effect.ofRecords state.waits state.records, report, state.interrupt⟩

/-- Runs scripts in order, up to a fault. -/
def Plan.runScripts (p : Plan) (coloured json : Bool) (outside : Nat → Outside) :
    Interrupt → List Script → List Effect × Except Fault (List Report)
  | _, [] => ([], .ok [])
  | interrupt, script :: scripts =>
    let header := if json then [] else [Effect.print (script.header coloured)]
    let result := p.runScript (outside 0) interrupt script
    match result.report with
    | .error fault => (header ++ result.effects, .error fault)
    | .ok report =>
      let summary := if json then [] else [Effect.print (report.summary coloured)]
      let (effects, reports) :=
        p.runScripts coloured json (fun k => outside (k + 1)) result.interrupt scripts
      (header ++ result.effects ++ summary ++ effects, reports.map (report :: ·))

/-- The fault of a command line on which reports do not pass. -/
def failure? (reports : List Report) : Option Fault :=
  let failed := (reports.filter (!·.passed)).length
  if failed == 0 then none else some (.testsFailed failed reports.length)

/-- The record of the table of commands, which is made on first use. -/
def tableRecord : Effect := .record (.commandsListed Command.all.length)

/-- Runs the scripts of a plan and prints their reports. -/
def Plan.run (p : Plan) (s : Surroundings) (json : Bool) : Transcript :=
  match p.runScripts s.coloured json s.outside s.interrupt p.scripts with
  | (effects, .error fault) => ⟨tableRecord :: effects, some fault⟩
  | (effects, .ok reports) =>
    let list := if json then [Effect.print (Report.listText reports ++ "\n")] else []
    ⟨tableRecord :: effects ++ list, failure? reports⟩

/-- **Reads everything and runs the scripts.** -/
def RunRequest.perform (r : RunRequest) (s : Surroundings) : Transcript :=
  match r.plan s with
  | .error fault => .ofFault fault
  | .ok plan => plan.run s r.json

/-! ## A signal -/

/-- How many scripts were started, and how often the last of them has waited. -/
def Effect.tally (effects : List Effect) : Nat × Nat :=
  effects.foldl (fun (scripts, waits) effect =>
    match effect with
    | .record r => if r.opensRun then (scripts + 1, 0) else (scripts, waits)
    | .wait _ => (scripts, waits + 1)
    | .print _ => (scripts, waits)) (0, 0)

/-- **A signal in the wait that the effects end with**, as each script sees it. -/
def Effect.arrival (effects : List Effect) (script : Nat) : Outside where
  arrives waits := (script + 1, waits.length) == Effect.tally effects

/-! ## All requests -/

def versionText : String := "selenese 0.1.0\n"

def helpText : String :=
  "Run Selenese test scripts\n\n" ++
  "Usage: selenese [--verbose] run [--var NAME=VALUE]... [--continue-on-failure]\n" ++
  "                            [--config FILE] [--json] SCRIPT...\n" ++
  "       selenese [--verbose] commands\n" ++
  "       selenese --version\n"

/-- The request asks for more to be logged. -/
def Request.isVerbose : Request → Bool
  | run verbose _ | listCommands verbose => verbose
  | version | help => false

/-- **Does what is asked for.** -/
def Request.perform (s : Surroundings) : Request → Transcript
  | run _ request => request.perform s
  | listCommands _ =>
    { effects := tableRecord :: Command.names.map fun name => .print (name ++ "\n") }
  | version => { effects := [.print versionText] }
  | help => { effects := [.print helpText] }

/-- The exit status of a command line that makes no sense. -/
def misuseStatus : Nat := 2

end Rowscript.CommandLine
