import Rowscript.Proofs.Isolation
import Rowscript.Proofs.JsonValues

/-!
# Proofs/Lossless — a list of reports as JSON loses nothing

    reports ──listText──▸ text ──ofText?──▸ array ──ofJson?──▸ reports

Reports are read by the names of their members, in whatever order these stand.  What was written is
what is read, down to the characters of each cell and of each message (`Report.listOfText?_listText`).
With the list asked for, the list is all that is printed (`RunRequest.output_of_json`), so all that is
known of the runs can be had from there (`RunRequest.reports_read_back`).
-/

namespace Rowscript

/-! ## Reading by names -/

namespace Json

variable {α : Type}

/-- The member of that name, as it is read. -/
def field? (v : Json) (name : String) (read : Json → Option α) : Option α :=
  match v with
  | object members => (members.lookup name).bind read
  | _ => none

def text? : Json → Option String
  | string s => some s
  | _ => none

def count? : Json → Option Nat
  | number n => some n
  | _ => none

def flag? : Json → Option Bool
  | bool b => some b
  | _ => none

/-- The items of an array, each as it is read. -/
def list? (read : Json → Option α) : Json → Option (List α)
  | array items => items.mapM read
  | _ => none

/-- **A list is read back if each of its items is.** -/
theorem list?_array {read : Json → Option α} {write : α → Json}
    (h : ∀ a, read (write a) = some a) (l : List α) : (array (l.map write)).list? read = some l := by
  rw [list?]
  induction l with
  | nil => rfl
  | cons a l ih =>
    rw [List.map_cons, List.mapM_cons, h, ih]
    rfl

end Json

namespace Outcome

/-- An outcome, by its status; that of an error comes with a message. -/
def ofJson? (v : Json) : Option Outcome :=
  (v.field? "status" Json.text?).bind fun
    | "continue" => some clean
    | "assertion_failed" => some assertionFailed
    | "verification_failed" => some verificationFailed
    | "error" => (v.field? "message" Json.text?).map error
    | _ => none

/-- An outcome, or `null` for none. -/
def ofNullable? : Json → Option (Option Outcome)
  | .null => some none
  | v => (ofJson? v).map some

/-- The outcome that a text is read as. -/
def ofText? (text : String) : Option Outcome := (Json.ofText? text).bind ofJson?

theorem ofJson?_toJson (o : Outcome) : ofJson? o.toJson = some o := by
  cases o <;> rfl

theorem ofNullable?_toJson (o : Option Outcome) :
    ofNullable? ((o.map toJson).getD .null) = some o := by
  cases o with
  | none => rfl
  | some o => cases o <;> rfl

/-- **An outcome is read back from its text.** -/
theorem ofText?_compact (o : Outcome) : ofText? o.toJson.compact = some o := by
  rw [ofText?, Json.ofText?_compact, Option.bind_some, ofJson?_toJson]

end Outcome

/-- The report on a row, by the names of its members. -/
def RowReport.ofJson? (v : Json) : Option RowReport := do
  let index ← v.field? "index" Json.count?
  let command ← v.field? "command" Json.text?
  let locator ← v.field? "locator" Json.text?
  let value ← v.field? "value" Json.text?
  let outcome ← v.field? "outcome" Outcome.ofNullable?
  let decorated ← v.field? "decorated" Json.flag?
  return ⟨index, ⟨command, locator, value⟩, outcome, decorated⟩

theorem RowReport.ofJson?_toJson (r : RowReport) : ofJson? r.toJson = some r := by
  have outcome := Outcome.ofNullable?_toJson r.outcome
  simp [ofJson?, toJson, Json.field?, Json.count?, Json.text?, Json.flag?, List.lookup_cons, outcome]

namespace Report

/-- The report on a script, by the names of its members. -/
def ofJson? (v : Json) : Option Report := do
  let name ← v.field? "name" Json.text?
  let passed ← v.field? "passed" Json.flag?
  let stepsRun ← v.field? "steps_run" Json.count?
  let stepsTotal ← v.field? "steps_total" Json.count?
  let halted ← v.field? "halted" Json.flag?
  let rows ← v.field? "rows" (Json.list? RowReport.ofJson?)
  return ⟨name, passed, stepsRun, stepsTotal, halted, rows⟩

/-- The reports that a text is read as. -/
def listOfText? (text : String) : Option (List Report) :=
  (Json.ofText? text).bind (Json.list? ofJson?)

theorem ofJson?_toJson (r : Report) : ofJson? r.toJson = some r := by
  have rows := Json.list?_array RowReport.ofJson?_toJson r.rows
  simp [ofJson?, toJson, Json.field?, Json.count?, Json.text?, Json.flag?, List.lookup_cons, rows]

/-- **Reports are read back from their list**, with the end of its last line. -/
theorem listOfText?_listText (reports : List Report) :
    listOfText? (listText reports ++ "\n") = some reports := by
  rw [listOfText?, listText, Json.ofText?_pretty_newline, Option.bind_some]
  exact Json.list?_array ofJson?_toJson reports

end Report

/-! ## What is printed -/

namespace CommandLine

/-- While the list is asked for, runs print nothing, however they end… -/
theorem Plan.output_runScripts_json (p : Plan) (coloured : Bool) (outside : Nat → Outside)
    (interrupt : Interrupt) (scripts : List Script) :
    Transcript.output ⟨(p.runScripts coloured true outside interrupt scripts).1, none⟩ = "" := by
  induction scripts generalizing outside interrupt with
  | nil => rfl
  | cons script rest ih =>
    have silent : Transcript.output ⟨(p.runScript (outside 0) interrupt script).effects, none⟩ = "" :=
      Transcript.output_ofRecords _ _ none
    rw [runScripts]
    dsimp only
    split
    case h_1 => exact silent
    case h_2 =>
      simp only [if_true, List.nil_append, List.append_nil]
      rw [Transcript.output_append, silent, ih, String.empty_append]

namespace RunRequest

/-- …and the list is all that is printed. -/
theorem output_of_json {r : RunRequest} {s : Surroundings} {reports : List Report}
    (json : r.json = true) (reported : r.reports s = .ok reports) :
    (r.perform s).output = Report.listText reports ++ "\n" := by
  obtain ⟨plan, planned, ran⟩ := bind_eq_ok_iff.1 reported
  have silent := plan.output_runScripts_json s.coloured s.outside s.interrupt plan.scripts
  rw [json] at ran
  rw [perform_of_plan planned, json, Plan.run]
  revert ran silent
  generalize plan.runScripts s.coloured true s.outside s.interrupt plan.scripts = runs
  obtain ⟨effects, result⟩ := runs
  rintro rfl silent
  dsimp only at silent ⊢
  rw [List.cons_append, tableRecord, Transcript.output_record, Transcript.output_append, silent,
    if_pos rfl, Transcript.output_print, String.empty_append]

/-- **Reports lose nothing on their way through a list.**  With the list asked for, what is printed is
one array with a line break behind it; and whatever names, cells and messages the reports hold, the
array is read back as these reports, by the names of its members.  An outcome alone is read back too,
so different outcomes are written differently. -/
theorem reports_read_back :
    (∀ (r : RunRequest) (s : Surroundings) (reports : List Report), r.json = true →
      r.reports s = .ok reports → (r.perform s).output = Report.listText reports ++ "\n") ∧
    (∀ reports : List Report,
      Json.ofText? (Report.listText reports) = some (.array (reports.map Report.toJson)) ∧
      Report.listOfText? (Report.listText reports ++ "\n") = some reports) ∧
    (∀ o : Outcome, Outcome.ofText? o.toJson.compact = some o) ∧
    ∀ o o' : Outcome, o ≠ o' → o.toJson.compact ≠ o'.toJson.compact := by
  refine ⟨fun _ _ _ => output_of_json, fun reports => ⟨Json.ofText?_pretty _,
    Report.listOfText?_listText reports⟩, Outcome.ofText?_compact, fun o o' differ same => ?_⟩
  have read := congrArg Outcome.ofText? same
  rw [Outcome.ofText?_compact, Outcome.ofText?_compact] at read
  exact differ (Option.some.inj read)

/-- A store with a tab and a control in a cell, and a pause that does not take a quote and a backslash
for a number, and says so. -/
theorem reports_read_back_controls :
    let files : Files := fun _ =>
      .ok ("name: odd\ncommands:\n- command: store\n  locator: \"a\\tb\\x01\"\n" ++
        "- command: pause\n  locator: '\"\\'\n")
    let r : RunRequest := { scripts := ["odd"], json := true }
    let s : Surroundings := { files := files }
    let refused : Outcome := .error "Unable to parse timeout: \"\\"
    let report : Report := ⟨"odd", false, 2, 2, false,
      [⟨1, ⟨"store", "a\tb\x01", ""⟩, none, false⟩, ⟨2, ⟨"pause", "\"\\", ""⟩, some refused, false⟩]⟩
    r.reports s = .ok [report] ∧ (r.perform s).output = Report.listText [report] ++ "\n" ∧
      Report.listOfText? (r.perform s).output = some [report] ∧
      Outcome.ofText? refused.toJson.compact = some refused ∧
      refused.toJson.compact ≠ (Outcome.error "").toJson.compact := by
  intro files r s refused report
  obtain ⟨prints, lossless, outcome, apart⟩ := reports_read_back
  have reported : r.reports s = .ok [report] := eq_ok_of_toOption (by decide +kernel)
  have printed := prints r s [report] rfl reported
  have read := (lossless [report]).2
  rw [← printed] at read
  exact ⟨reported, printed, read, outcome refused, apart refused (.error "") (by decide)⟩

end RunRequest

end CommandLine

end Rowscript
