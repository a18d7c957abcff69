import Mathlib.Tactic.Choose
import Rowscript.Proofs.Calm
import Rowscript.Proofs.Reading

/-!
# Proofs/Isolation — each script of a command line runs for itself

The scripts of a command line share its settings, its assignments and the interrupt.  While nobody
interrupts, what is reported on a script is told by these and by the script (`Plan.report`), so it is
what is reported if the script stands alone, and what is reported on many scripts is what is reported
on each (`Plan.runScripts_calm`).  How the command line ends, and what it prints, is told by the
reports (`RunRequest.perform_isolated`).
-/

namespace Rowscript.CommandLine

/-- The world of a dry run is calm, if nobody else sets the interrupt. -/
theorem calm_dryWorld : (dryWorld {}).Calm := by
  refine ⟨fun _ => rfl, fun calls answered => ?_, fun _ => rfl, fun _ => rfl, fun _ => rfl⟩
  cases answered

/-- **Nobody interrupts**: the interrupt is clear when the first script starts, and nobody else sets
it, in any of the scripts. -/
structure Surroundings.Calm (s : Surroundings) : Prop where
  interrupt : s.interrupt = .clear
  outside : s.outside = fun _ => {}

/-! ## The reports of a plan -/

namespace Plan

/-- What is reported on a script if nothing interrupts it.  The other scripts of the plan are no part
of it. -/
def report (p : Plan) (script : Script) : Report :=
  ((p.prepare script).ending (dryWorld {}) p.continueOnFailure {}).report (p.prepare script)

/-- A script that starts with the interrupt clear is reported on, and leaves it clear… -/
theorem runScript_calm (p : Plan) (script : Script) :
    (p.runScript {} .clear script).report = .ok (p.report script) ∧
      (p.runScript {} .clear script).interrupt = .clear :=
  Script.run_calm calm_dryWorld rfl p.continueOnFailure (p.prepare script)

/-- What is seen of a script if nothing interrupts it: its run, between its header and its summary
unless the reports are printed as a list behind all runs. -/
def episode (p : Plan) (coloured json : Bool) (script : Script) : List Effect :=
  (if json then [] else [.print (script.header coloured)]) ++
    (p.runScript {} .clear script).effects ++
    if json then [] else [.print ((p.report script).summary coloured)]

/-- …so **every script has its episode and its report**, whatever came of those before it. -/
theorem runScripts_calm (p : Plan) (coloured json : Bool) (scripts : List Script) :
    p.runScripts coloured json (fun _ => {}) .clear scripts
      = (scripts.flatMap (p.episode coloured json), .ok (scripts.map p.report)) := by
  induction scripts with
  | nil => rfl
  | cons script rest ih =>
    obtain ⟨reported, left⟩ := p.runScript_calm script
    rw [runScripts]
    dsimp only
    rw [reported, left]
    dsimp only
    rw [ih]
    rfl

/-- **What comes of a command line that nobody interrupts**: the episodes of its scripts in order,
the list of the reports if that is asked for, and a fault if not all of them pass. -/
theorem run_calm (p : Plan) {s : Surroundings} (calm : s.Calm) (json : Bool) :
    p.run s json =
      ⟨tableRecord :: p.scripts.flatMap (p.episode s.coloured json) ++
          if json then [.print (Report.listText (p.scripts.map p.report) ++ "\n")] else [],
        failure? (p.scripts.map p.report)⟩ := by
  rw [run, calm.interrupt, calm.outside, runScripts_calm]

end Plan

/-! ## What is printed -/

namespace Transcript

/-- What is printed is printed in order, and a fault prints nothing. -/
theorem output_append (effects more : List Effect) (fault : Option Fault) :
    output ⟨effects ++ more, fault⟩ = output ⟨effects, none⟩ ++ output ⟨more, none⟩ := by
  rw [output, List.map_append, String.join_append]
  rfl

@[simp] theorem output_nil (fault : Option Fault) : output ⟨[], fault⟩ = "" := rfl

@[simp] theorem output_print (text : String) (fault : Option Fault) :
    output ⟨[.print text], fault⟩ = text := by
  rw [output, List.map_singleton, String.join_cons, String.join_nil, String.append_empty]

/-- A record is no output… -/
@[simp] theorem output_record (r : Record) (effects : List Effect) (fault : Option Fault) :
    output ⟨.record r :: effects, fault⟩ = output ⟨effects, fault⟩ := by
  rw [output, List.map_cons, String.join_cons, String.empty_append]
  rfl

/-- …and neither is a wait. -/
@[simp] theorem output_wait (ms : Nat) (effects : List Effect) (fault : Option Fault) :
    output ⟨.wait ms :: effects, fault⟩ = output ⟨effects, fault⟩ := by
  rw [output, List.map_cons, String.join_cons, String.empty_append]
  rfl

/-- So a run prints nothing by itself. -/
@[simp] theorem output_ofRecords (waits : List Nat) (records : List Record)
    (fault : Option Fault) : output ⟨Effect.ofRecords waits records, fault⟩ = "" := by
  induction records generalizing waits with
  | nil => rw [Effect.ofRecords, output_nil]
  | cons r rs ih =>
    cases waits with
    | nil => rw [Effect.ofRecords, output_record, ih]
    | cons ms waits =>
      rw [Effect.ofRecords]
      split
      · rw [output_record, output_wait, ih]
      · rw [output_record, ih]

end Transcript

namespace Plan

/-- What is printed about a script: its header and the summary of its report. -/
def account (p : Plan) (coloured : Bool) (script : Script) : String :=
  script.header coloured ++ (p.report script).summary coloured

/-- Its account is all that is printed in its episode, or nothing. -/
theorem output_episode (p : Plan) (coloured json : Bool) (script : Script) :
    Transcript.output ⟨p.episode coloured json script, none⟩
      = if json then "" else p.account coloured script := by
  have silent : Transcript.output ⟨(p.runScript {} .clear script).effects, none⟩ = "" :=
    Transcript.output_ofRecords _ _ none
  rw [episode, Transcript.output_append, Transcript.output_append, silent, String.append_empty]
  cases json with
  | true => rfl
  | false => simp only [Bool.false_eq_true, if_false, Transcript.output_print, account]

/-- **Each script has its account**, unless the reports are printed as a list behind all runs. -/
theorem output_episodes (p : Plan) (coloured json : Bool) (scripts : List Script) :
    Transcript.output ⟨scripts.flatMap (p.episode coloured json), none⟩ =
      if json then "" else String.join (scripts.map (p.account coloured)) := by
  induction scripts with
  | nil => cases json <;> rfl
  | cons script rest ih =>
    rw [List.flatMap_cons, Transcript.output_append, output_episode, ih]
    cases json with
    | true => rfl
    | false => simp only [Bool.false_eq_true, if_false, List.map_cons, String.join_cons]

/-- **What a command line that nobody interrupts prints.** -/
theorem output_run (p : Plan) {s : Surroundings} (calm : s.Calm) (json : Bool) :
    (p.run s json).output =
      if json then Report.listText (p.scripts.map p.report) ++ "\n"
      else String.join (p.scripts.map (p.account s.coloured)) := by
  rw [p.run_calm calm, List.cons_append, tableRecord, Transcript.output_record,
    Transcript.output_append, output_episodes]
  cases json with
  | true => simp only [if_true, Transcript.output_print, String.empty_append]
  | false =>
    simp only [Bool.false_eq_true, if_false, Transcript.output_nil, String.append_empty]

end Plan

/-! ## How a command line ends -/

/-- The exit status is zero if there is no fault, and only then. -/
theorem Transcript.status_eq_zero_iff {t : Transcript} : t.status = 0 ↔ t.fault = none := by
  obtain ⟨effects, fault⟩ := t
  cases fault with
  | none => exact ⟨fun _ => rfl, fun _ => rfl⟩
  | some fault =>
    have positive : fault.exitCode ≠ 0 := by cases fault <;> simp [Fault.exitCode]
    exact ⟨fun zero => absurd zero positive, fun absent => (by cases absent)⟩

/-- There is no fault if all reports pass… -/
theorem failure?_eq_none_iff {reports : List Report} :
    failure? reports = none ↔ ∀ report ∈ reports, report.passed = true := by
  rw [failure?]
  simp

/-- …and else it says how many of them do not. -/
theorem eq_testsFailed_of_failure? {reports : List Report} {fault : Fault}
    (h : failure? reports = some fault) :
    fault = .testsFailed (reports.countP fun report => !report.passed) reports.length := by
  rw [failure?, ← List.countP_eq_length_filter] at h
  split at h
  · cases h
  · exact (Option.some.inj h).symm

/-! ## The reports of a command line -/

namespace RunRequest

/-- **The reports of a command line**, one for each script. -/
def reports (r : RunRequest) (s : Surroundings) : Except Fault (List Report) :=
  (r.plan s).bind fun plan =>
    (plan.runScripts s.coloured r.json s.outside s.interrupt plan.scripts).2

/-- The same request for other scripts. -/
def onScripts (r : RunRequest) (paths : List String) : RunRequest := { r with scripts := paths }

section Loaded

variable {r : RunRequest} {s : Surroundings} {settings : Settings} {assignments : List Assignment}
  {script : String → Script} (configured : r.settings s = .ok settings)
  (assigned : r.assignments.mapM Assignment.parse = .ok assignments) {paths : List String}
  (loads : ∀ path ∈ paths, Script.load s.files path = .ok (script path))

include configured assigned loads

/-- Everything is read, so there is a plan… -/
theorem plan_of_loaded :
    (r.onScripts paths).plan s = .ok (r.planOf settings assignments (paths.map script)) := by
  have loaded : List.Forall₂ (fun path script => Script.load s.files path = .ok script) paths
      (paths.map script) := List.forall₂_map_right_iff.2 (List.forall₂_same.2 loads)
  exact plan_eq_ok_iff.2 ⟨settings, assignments, _, configured, assigned, loaded, rfl⟩

/-- …and there are reports, each of them told by its script and by what all scripts share… -/
theorem reports_of_loaded (calm : s.Calm) :
    (r.onScripts paths).reports s
      = .ok (paths.map fun path => (r.planOf settings assignments []).report (script path)) := by
  have run := congrArg Prod.snd
    ((r.planOf settings assignments (paths.map script)).runScripts_calm s.coloured r.json
      (paths.map script))
  rw [reports, plan_of_loaded configured assigned loads, calm.interrupt, calm.outside]
  dsimp only at run
  rw [List.map_map] at run
  exact run

/-- …and so is what is printed. -/
theorem perform_of_loaded (calm : s.Calm) :
    let plan := r.planOf settings assignments []
    let t := (r.onScripts paths).perform s
    let reports := paths.map fun path => plan.report (script path)
    t.fault = failure? reports ∧
      t.output =
        if r.json then Report.listText reports ++ "\n"
        else String.join (paths.map fun path => plan.account s.coloured (script path)) := by
  intro plan t reports
  have performed : t = (r.planOf settings assignments (paths.map script)).run s r.json :=
    perform_of_plan (plan_of_loaded configured assigned loads)
  have printed := (r.planOf settings assignments (paths.map script)).output_run calm r.json
  rw [performed]
  simp only [planOf, List.map_map] at printed
  refine ⟨?_, printed⟩
  rw [Plan.run_calm _ calm]
  exact congrArg failure? (List.map_map ..)

end Loaded

/-- **Scripts of one command line keep out of each other's way.**  If everything is read and nobody
interrupts, every script is run from a fresh state and reported on, in the order of the command line,
and what is reported on a script is what is reported if the script stands alone, or if the scripts
stand in another order.  The reports are what is printed; the exit status is zero if all of them
pass, and else it is one and the fault says how many do not. -/
theorem perform_isolated (r : RunRequest) (s : Surroundings) {settings : Settings}
    {assignments : List Assignment} (configured : r.settings s = .ok settings)
    (assigned : r.assignments.mapM Assignment.parse = .ok assignments)
    (loaded : ∀ path ∈ r.scripts, ∃ script, Script.load s.files path = .ok script)
    (calm : s.Calm) :
    ∃ report : String → Report,
      let plan := r.planOf settings assignments []
      let reports := r.scripts.map report
      let failed := reports.countP fun report => !report.passed
      let t := r.perform s
      r.reports s = .ok reports ∧
      (∀ path ∈ r.scripts, ∃ script, Script.load s.files path = .ok script ∧
        ((plan.prepare script).run (dryWorld {}) plan.continueOnFailure {}).1 = .ok (report path)) ∧
      (∀ path ∈ r.scripts, (r.onScripts [path]).reports s = .ok [report path]) ∧
      (∀ paths, paths.Perm r.scripts → (r.onScripts paths).reports s = .ok (paths.map report)) ∧
      (t.output = if r.json then Report.listText reports ++ "\n"
        else String.join (r.scripts.map fun path => ((r.onScripts [path]).perform s).output)) ∧
      (t.status = 0 ↔ ∀ report ∈ reports, report.passed = true) ∧
      (t.status ≠ 0 → t.status = 1 ∧
        t.fault.map Fault.message
          = some s!"{failed} of {r.scripts.length} test script(s) failed") := by
  have : Nonempty Script := ⟨⟨"", none, {}, []⟩⟩
  choose! script loads using loaded
  have among : ∀ paths ⊆ r.scripts, ∀ path ∈ paths,
      Script.load s.files path = .ok (script path) := fun paths sub path hp => loads path (sub hp)
  have alone : ∀ path ∈ r.scripts, [path] ⊆ r.scripts := fun path hp =>
    List.cons_subset.2 ⟨hp, List.nil_subset _⟩
  refine ⟨fun path => (r.planOf settings assignments []).report (script path), ?_⟩
  intro plan reports failed t
  obtain ⟨ends, prints⟩ := perform_of_loaded configured assigned loads calm
  have ended : t.fault = failure? reports := ends
  refine ⟨reports_of_loaded configured assigned loads calm, fun path hp => ?_, fun path hp => ?_,
    fun paths perm => ?_, prints.trans ?_, ?_, fun nonzero => ?_⟩
  · exact ⟨script path, loads path hp, (plan.runScript_calm (script path)).1⟩
  · exact reports_of_loaded configured assigned (among _ (alone path hp)) calm
  · exact reports_of_loaded configured assigned (among _ perm.subset) calm
  · split
    case isTrue json => rfl
    case isFalse plain =>
      refine congrArg String.join (List.map_congr_left fun path hp => ?_)
      obtain ⟨-, single⟩ := perform_of_loaded configured assigned (among _ (alone path hp)) calm
      rw [single, if_neg plain, List.map_singleton, String.join_cons, String.join_nil,
        String.append_empty]
  · rw [Transcript.status_eq_zero_iff, ended]
    exact failure?_eq_none_iff
  · rw [ne_eq, Transcript.status_eq_zero_iff, ← ne_eq, Option.ne_none_iff_exists'] at nonzero
    obtain ⟨fault, failing⟩ := nonzero
    obtain rfl := eq_testsFailed_of_failure? (ended.symm.trans failing)
    rw [Transcript.status, failing]
    refine ⟨rfl, ?_⟩
    rw [List.length_map]
    rfl

/-- The first script fails and leaves an inversion behind; the second one has a clean echo, wherever
it stands. -/
theorem perform_isolated_echo :
    let files : Files := fun path =>
      .ok (if path = "turned" then
        "name: turned\ncommands:\n- command: verifyErrorOnNext\n- command: echo\n" ++
          "- command: assertErrorOnNext\n"
      else "name: plain\ncommands:\n- command: echo\n")
    let r : RunRequest := { scripts := ["turned", "plain"], assignments := ["x=1"] }
    let s : Surroundings := { files := files }
    ∃ turned plain : Report, turned.passed = false ∧ plain.passed = true ∧
      r.reports s = .ok [turned, plain] ∧ (r.onScripts ["plain"]).reports s = .ok [plain] ∧
      (r.onScripts ["plain", "turned"]).reports s = .ok [plain, turned] ∧
      (r.perform s).status = 1 ∧
      (r.perform s).fault.map Fault.message = some "1 of 2 test script(s) failed" := by
  intro files r s
  have verdicts : (r.reports s).toOption.map (List.map Report.passed) = some [false, true] := by
    decide +kernel
  have loads : ∀ path ∈ r.scripts, (Script.load files path).toBool = true := by decide +kernel
  have loaded : ∀ path ∈ r.scripts, ∃ script, Script.load files path = .ok script := by
    intro path hp
    have succeeds := loads path hp
    generalize Script.load files path = loading at succeeds ⊢
    cases loading with
    | ok script => exact ⟨script, rfl⟩
    | error fault => cases succeeds
  have configured : r.settings s = .ok {} := rfl
  have assigned : r.assignments.mapM Assignment.parse = .ok [⟨"x", "1"⟩] := rfl
  obtain ⟨report, all, -, alone, permuted, -, passes, fails⟩ :=
    perform_isolated r s configured assigned loaded ⟨rfl, rfl⟩
  have both : r.reports s = .ok [report "turned", report "plain"] := all
  obtain ⟨failed, passed⟩ : (report "turned").passed = false ∧ (report "plain").passed = true := by
    rw [both] at verdicts
    have flags : [(report "turned").passed, (report "plain").passed] = [false, true] :=
      Option.some.inj verdicts
    simpa using flags
  have nonzero : (r.perform s).status ≠ 0 := by
    intro zero
    have turned := passes.1 zero (report "turned") (List.mem_map_of_mem List.mem_cons_self)
    rw [failed] at turned
    cases turned
  have count : (r.scripts.map report).countP (fun report => !report.passed) = 1 := by
    change [report "turned", report "plain"].countP (fun report => !report.passed) = 1
    simp [failed, passed]
  obtain ⟨status, message⟩ := fails nonzero
  rw [count] at message
  exact ⟨report "turned", report "plain", failed, passed, both, alone "plain" (by decide),
    permuted ["plain", "turned"] (by decide), status, message.trans (by decide +kernel)⟩

end RunRequest

end Rowscript.CommandLine
