import Rowscript.Proofs.Isolation

/-!
# Proofs/AllOrNothing — every script is run, or none is

    read ──fault──▸ nothing is seen but the fault
    read ──plan──▸ script ──▸ … ──▸ script

Nothing is seen of a command line before all of it is read.  If something cannot be read, the first
fault is all there is; if everything can, and nobody interrupts, the scripts are run one after the
other, each of them from its first row on (`RunRequest.perform_all_or_nothing`).
-/

namespace Rowscript.CommandLine

namespace Plan

/-- A script with a row has its first row run, at least. -/
theorem stepsRun_pos (p : Plan) {script : Script} (rows : script.rows ≠ []) :
    0 < (p.report script).stepsRun := by
  have reported : ((p.prepare script).run (dryWorld {}) p.continueOnFailure {}).1
      = .ok (p.report script) := (p.runScript_calm script).1
  have clear : ((p.prepare script).stage (dryWorld {}) {} 0).state.interrupt = .clear :=
    State.seed_keeps State.interrupt (fun _ _ _ => rfl) _ _
  have starts : (p.prepare script).Starts (dryWorld {}) p.continueOnFailure {} 0 := by
    refine ⟨⟨List.length_pos_iff.2 rows, trivial⟩, ?_⟩
    rw [State.isInterrupted, clear]
    rfl
  exact Nat.lt_of_lt_of_eq (Script.lt_started_iff.2 starts)
    (Script.length_rows_eq_started reported).symm

end Plan

namespace RunRequest

/-- **A command line runs all of its scripts, or none of them.**  Everything can be read if the
settings can be loaded, every assignment gives a name a value, and every script is there, is one, and
has a row.  If something cannot, nothing is done: the fault of the first thing, in the order settings,
assignments, scripts, is all that is shown, and the exit status is one.  If everything can, and nobody
interrupts, the scripts are run in order, and each of them is reported on and has its first row run,
at least. -/
theorem perform_all_or_nothing (r : RunRequest) (s : Surroundings) (verbose : Bool) :
    let t := (Request.run verbose r).perform s
    (r.faults s = [] ↔ (∃ settings, r.settings s = .ok settings) ∧
      (∀ text ∈ r.assignments, ∃ name value, Assignment.Assigns text name value ∧ name ≠ "") ∧
      ∀ path ∈ r.scripts, ∃ text script, s.files path = .ok text ∧
        Script.ofText text = .ok script ∧ script.rows ≠ []) ∧
    (∀ fault others, r.faults s = fault :: others →
      t.effects = [] ∧ t.output = "" ∧ t.status = 1 ∧ t.fault = some fault ∧
        ∀ filter, t.messages filter = [Transcript.faultLine fault]) ∧
    (r.faults s = [] → s.Calm → ∃ p, r.plan s = .ok p ∧
      List.Forall₂ (fun path script => Script.load s.files path = .ok script) r.scripts p.scripts ∧
      t.effects = tableRecord :: p.scripts.flatMap (p.episode s.coloured r.json) ++
        (if r.json then [.print (Report.listText (p.scripts.map p.report) ++ "\n")] else []) ∧
      ∀ script ∈ p.scripts, (p.runScript {} .clear script).report = .ok (p.report script) ∧
        0 < (p.report script).stepsRun) := by
  intro t
  have performed : t = r.perform s := rfl
  have first := r.of?_plan s
  refine ⟨?_, fun fault others some => ?_, fun none calm => ?_⟩
  · have loads : ∀ path, (∃ script, Script.load s.files path = .ok script) ↔
        ∃ text script, s.files path = .ok text ∧ Script.ofText text = .ok script ∧
          script.rows ≠ [] := by
      intro path
      simp only [Script.load_eq_ok_iff]
      exact ⟨fun ⟨script, ⟨text, h⟩, rows⟩ => ⟨text, script, h.1, h.2, rows⟩,
        fun ⟨text, script, file, read, rows⟩ => ⟨script, ⟨text, file, read⟩, rows⟩⟩
    simp only [faults_eq_nil_iff, loads]
  · rw [some, List.head?_cons, Fault.of?_eq_some_iff] at first
    have listed : fault ∈ r.faults s := some ▸ List.mem_cons_self
    rw [performed, perform_of_fault first]
    exact ⟨rfl, rfl, exitCode_of_mem_faults listed, rfl, fun filter => rfl⟩
  · rw [none, List.head?_nil, Fault.of?_eq_none_iff] at first
    obtain ⟨p, planned⟩ := first
    obtain ⟨settings, assignments, scripts, -, -, loaded, rfl⟩ := plan_eq_ok_iff.1 planned
    rw [performed, perform_of_plan planned, Plan.run_calm _ calm]
    exact ⟨_, planned, loaded, rfl, fun script hs =>
      ⟨(Plan.runScript_calm _ script).1, Plan.stepsRun_pos _ (Script.rows_ne_nil_of_loads loaded hs)⟩⟩

/-- A script that can be read between two that cannot, behind assignments of which the second is none:
that one is the fault, and without it the script that has no row; the script that can be read is not
run before it stands alone. -/
theorem perform_all_or_nothing_echo :
    let files : Files := fun path =>
      if path = "plain" then .ok "name: plain\ncommands:\n- command: echo\n"
      else if path = "bare" then .ok "name: bare\ncommands: []\n"
      else .error .notFound
    let s : Surroundings := { files := files }
    let r : RunRequest := { scripts := ["bare", "plain", "lost"], assignments := ["x=1", "=2", "y"] }
    let assigned : RunRequest := { r with assignments := ["x=1"], json := true }
    let alone : RunRequest := { assigned with scripts := ["plain", "plain"] }
    (r.perform s).effects = [] ∧ (r.perform s).fault = some (.invalidVariable "=2") ∧
      (assigned.perform s).output = "" ∧ (assigned.perform s).status = 1 ∧
      (assigned.perform s).fault = some (.emptyScript "bare") ∧
      ∃ p, alone.plan s = .ok p ∧ p.scripts.length = 2 ∧
        ∀ script ∈ p.scripts, 0 < (p.report script).stepsRun := by
  intro files s r assigned alone
  obtain ⟨-, refused, -⟩ := perform_all_or_nothing r s false
  obtain ⟨nothing, -, -, fault, -⟩ := refused (.invalidVariable "=2")
    [.invalidVariable "y", .emptyScript "bare",
      .scriptRead "lost" "No such file or directory (os error 2)"] (by decide +kernel)
  obtain ⟨-, refused', -⟩ := perform_all_or_nothing assigned s true
  obtain ⟨-, silent, status, fault', -⟩ := refused' (.emptyScript "bare")
    [.scriptRead "lost" "No such file or directory (os error 2)"] (by decide +kernel)
  obtain ⟨-, -, runs⟩ := perform_all_or_nothing alone s true
  obtain ⟨p, planned, loaded, -, started⟩ := runs (by decide +kernel) ⟨rfl, rfl⟩
  exact ⟨nothing, fault, silent, status, fault', p, planned, loaded.length_eq.symm,
    fun script hs => (started script hs).2⟩

end RunRequest

end Rowscript.CommandLine
