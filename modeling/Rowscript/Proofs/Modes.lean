import Rowscript.Proofs.Lossless

/-!
# Proofs/Modes — what is printed for a reader and what is printed as a list tell the same

             ┌──▸ header, entries, verdict of each script     as it runs
    plan ────┤                   ╎ Report.Account
             └──▸ list of the reports                         behind all runs

A command line prints an account of each script as it runs, or a list of all reports at the end.
`Report.Account` says of a text that it is the account of a script, given what the list says of it:
an entry for each row, with the mark that its verdict asks for, and then how the run ended.  While
nobody interrupts, the accounts are those of the reports in the list, and the command line ends alike
(`RunRequest.modes_agree`).
-/

namespace Rowscript

/-! ## Accounts -/

/-- **The entry of a row**, by its verdict: a check mark if nothing is wrong, an exclamation mark if
the run went on anyhow, and else a cross with what is wrong. -/
inductive RowReport.Entry (r : RowReport) : String → Prop where
  | check (clean : r.outcome = none ∨ r.outcome = some .clean) :
    r.Entry s!"  ✓ Step {r.index}: {r.row.text}\n"
  | exclamation (soft : r.outcome = some .verificationFailed) :
    r.Entry s!"  ! Step {r.index}: {r.row.text} ({Outcome.verificationFailed.message})\n"
  | cross {o : Outcome} (verdict : r.outcome = some o)
    (hard : o = .assertionFailed ∨ ∃ message, o = .error message) :
    r.Entry s!"  ✗ Step {r.index}: {r.row.text} ({o.message})\n"

/-- **The account of a script**: its header, the entries of its rows in order, whether it was stopped,
and its verdict. -/
inductive Report.Account (script : Script) (report : Report) : String → Prop where
  | of {entries : List String} (named : report.name = script.name)
    (rows : List.Forall₂ RowReport.Entry report.rows entries) :
    Account script report
      (script.header false ++ String.join entries ++
        (if report.halted then
          "  " ++ s!"Stopped after {report.stepsRun} of {report.stepsTotal} steps" ++ "\n"
        else "") ++
        if report.passed then "\n✓ Test Passed\n\n" else "\n✗ Test Failed\n\n")

/-- The accounts of many scripts, one behind the other. -/
inductive Report.Accounts : List Script → List Report → String → Prop where
  | nil : Accounts [] [] ""
  | cons {script : Script} {scripts : List Script} {report : Report} {reports : List Report}
    {account rest : String} (first : report.Account script account)
    (others : Accounts scripts reports rest) :
    Accounts (script :: scripts) (report :: reports) (account ++ rest)

/-! ## What is printed is an account -/

/-- The line of a row is its entry… -/
theorem RowReport.entry_line (r : RowReport) : r.Entry (r.line false) := by
  unfold line
  dsimp only [Text.Style.apply]
  split
  case h_1 none => exact .check (.inl none)
  case h_2 clean => exact .check (.inr clean)
  case h_3 soft => exact .exclamation soft
  case h_4 o notClean notSoft verdict =>
    refine .cross verdict ?_
    cases o with
    | clean => exact absurd rfl notClean
    | assertionFailed => exact .inl rfl
    | verificationFailed => exact absurd rfl notSoft
    | error message => exact .inr ⟨message, rfl⟩

/-- …the line of a stopped run and that of the verdict are the others… -/
theorem Report.stopLine_plain (r : Report) :
    r.stopLine false
      = if r.halted then "  " ++ s!"Stopped after {r.stepsRun} of {r.stepsTotal} steps" ++ "\n"
        else "" := rfl

theorem Report.verdict_plain (r : Report) :
    r.verdict false = if r.passed then "\n✓ Test Passed\n\n" else "\n✗ Test Failed\n\n" := by
  cases passed : r.passed <;> simp only [verdict, passed] <;> rfl

/-- …so the summary of a report, below the header, is the account of its script. -/
theorem Report.account_summary {script : Script} {report : Report}
    (named : report.name = script.name) :
    report.Account script (script.header false ++ report.summary false) := by
  have rows : List.Forall₂ RowReport.Entry report.rows (report.rows.map (·.line false)) :=
    List.forall₂_map_right_iff.2 (List.forall₂_same.2 fun r _ => r.entry_line)
  rw [summary, stopLine_plain, verdict_plain, ← String.append_assoc, ← String.append_assoc]
  exact .of named rows

namespace CommandLine

namespace Plan

/-- The report on a script has its name… -/
theorem report_name (p : Plan) (script : Script) : (p.report script).name = script.name := rfl

/-- …and what is printed about scripts are their accounts. -/
theorem accounts_report (p : Plan) (scripts : List Script) :
    Report.Accounts scripts (scripts.map p.report)
      (String.join (scripts.map (p.account false))) := by
  induction scripts with
  | nil => exact .nil
  | cons script rest ih =>
    rw [List.map_cons, List.map_cons, String.join_cons]
    exact .cons (Report.account_summary (p.report_name script)) ih

end Plan

/-- The same surroundings, without colours. -/
def Surroundings.plain (s : Surroundings) : Surroundings := { s with coloured := false }

namespace RunRequest

/-- The same request, with the list of reports asked for or not. -/
def asking (r : RunRequest) (json : Bool) : RunRequest := { r with json := json }

/-- **Either way of printing tells the same.**  If everything is read and nobody interrupts, the
command line ends with the same status, and the same fault if with any, whether or not the list is
asked for.  The list is read back as the reports on the scripts; and what is printed without it, and
without colours, is the account of each script, in order, that goes with its report. -/
theorem modes_agree (r : RunRequest) (s : Surroundings) {p : Plan} (planned : r.plan s = .ok p)
    (calm : s.Calm) :
    let told := (r.asking false).perform s
    let listed := (r.asking true).perform s
    told.status = listed.status ∧ told.fault = listed.fault ∧
      ∃ reports, (r.asking true).reports s = .ok reports ∧
        Report.listOfText? listed.output = some reports ∧
        Report.Accounts p.scripts reports ((r.asking false).perform s.plain).output := by
  intro told listed
  have performed : ∀ (json : Bool) (s' : Surroundings), r.plan s' = .ok p →
      (r.asking json).perform s' = p.run s' json := fun json s' h =>
    perform_of_plan (r := r.asking json) h
  have same : told.fault = listed.fault := by
    rw [show told = _ from performed false s planned, show listed = _ from performed true s planned,
      p.run_calm calm, p.run_calm calm]
  have status : told.status = listed.status := by rw [Transcript.status, Transcript.status, same]
  refine ⟨status, same, p.scripts.map p.report, ?_, ?_, ?_⟩
  · have all := congrArg Prod.snd (p.runScripts_calm s.coloured true p.scripts)
    rw [reports, show (r.asking true).plan s = .ok p from planned,
      calm.interrupt, calm.outside]
    exact all
  · rw [show listed = _ from performed true s planned, p.output_run calm, if_pos rfl,
      Report.listOfText?_listText]
  · have plain : s.plain.Calm := ⟨calm.interrupt, calm.outside⟩
    rw [performed false s.plain planned, p.output_run plain]
    exact p.accounts_report p.scripts

/-- An echo that must not succeed, and a pause that does not take its cell for a number and stops the
run.  Behind it, a script that is well. -/
theorem modes_agree_stopped :
    let files : Files := fun path =>
      .ok (if path = "stopped" then
        "name: stopped\ncommands:\n- command: verifyErrorOnNext\n- command: echo\n" ++
          "- command: pause\n  locator: soon\n- command: echo\n"
      else "name: well\ncommands:\n- command: store\n  locator: x\n")
    let r : RunRequest := { scripts := ["stopped", "well"] }
    let s : Surroundings := { files := files, coloured := true }
    let text :=
      "\nRunning Test: stopped\n\nSteps:\n  ✓ Step 1: verifyErrorOnNext\n" ++
        "  ! Step 2: echo (verification failed)\n" ++
        "  ✗ Step 3: pause soon (error: Unable to parse timeout: soon)\n" ++
        "  Stopped after 3 of 4 steps\n\n✗ Test Failed\n\n" ++
        "\nRunning Test: well\n\nSteps:\n  ✓ Step 1: store x\n\n✓ Test Passed\n\n"
    ((r.asking false).perform s).status = ((r.asking true).perform s).status ∧
      ∃ scripts reports, Report.Accounts scripts reports text ∧
        Report.listOfText? ((r.asking true).perform s).output = some reports := by
  intro files r s text
  obtain ⟨p, planned⟩ : ∃ p, r.plan s = .ok p := exists_eq_ok_of_toBool (by decide +kernel)
  obtain ⟨status, -, reports, -, listed, told⟩ := modes_agree r s planned ⟨rfl, rfl⟩
  have printed : ((r.asking false).perform s.plain).output = text := by decide +kernel
  exact ⟨status, p.scripts, reports, printed ▸ told, listed⟩

end RunRequest

end CommandLine

end Rowscript
