import Rowscript.Proofs.Accounting
import Rowscript.Proofs.Composition
import Rowscript.Proofs.Resemblance
import Rowscript.Proofs.Severity

/-!
# Proofs/Exchange — two stores that know nothing of each other

    stage ──first──▸ ──second──▸ end
    stage ──second──▸ ──first──▸ end

A store gives one name a value, and what it reads are the names in the placeholders of its cells.  Two
stores in a row are independent if they write different names and neither of them reads what the other
one writes.  Behind them each name stands for the same, whichever of them comes first
(`Stage.Independent.after_resembles`), and the rest of a run cannot tell which did
(`Script.run_exchanged`).
-/

namespace Rowscript

/-! ## Stores on a state -/

/-- The names that the cells of a row ask for. -/
def Row.names (row : Row) : List String :=
  (Template.ofChars row.locator.toList).names ++ (Template.ofChars row.value.toList).names

namespace State

/-- What a store to another name leaves of the cells of a row. -/
theorem store_expand_cells (s : State) {row : Row} {name : String} (h : name ∉ row.names)
    (value : String) :
    (s.store name value).expand row.locator = s.expand row.locator ∧
      (s.store name value).expand row.value = s.expand row.value :=
  ⟨s.vars.expand_insert_of_notMem (fun h' => h (List.mem_append_left _ h')) value,
    s.vars.expand_insert_of_notMem (fun h' => h (List.mem_append_right _ h')) value⟩

/-- **Stores to different names commute**, but for the map that they leave. -/
theorem store_comm_resembles (s : State) {name other : String} (h : name ≠ other)
    (value text : String) :
    ((s.store name value).store other text).Resembles
      ((s.store other text).store name value) :=
  ⟨s.vars.insert_comm h value text, rfl, rfl, rfl, rfl⟩

theorem Resembles.ite_trigger {s t : State} (h : s.Resembles t) (b : Bool) :
    (if b then s.trigger else s).Resembles (if b then t.trigger else t) := by
  cases b
  · exact h
  · exact ⟨h.vars, rfl, h.calls, h.lines, h.waits⟩

/-- What is behind a row is its record, and the interrupt if somebody sets it. -/
theorem pass_agrees (w : World) (index : Nat) (r : Record) (s : State) :
    (s.pass w index r).Agrees (if w.behind index then s.trigger else s) :=
  (agrees_note s r).ite_trigger _

end State

namespace Stage

variable {w : World} {regardless : Bool} {g k : Stage} {row first second : Row}

/-! ## One store -/

/-- A store that nothing waits for has no verdict, and is passed unless the interrupt is set. -/
theorem passes_store (store : row.command = "store") (free : g.pending = none)
    (calm : g.state.isInterrupted = false) :
    g.fault? w row = none ∧ g.report w row = ⟨g.index, row, none, false⟩ := by
  have silent : row.reply w g.state = .ok .silent := Row.reply_of_store store
  refine ⟨fault?_eq_none_iff.2 ⟨calm, _, silent⟩, ?_⟩
  rw [report, result_of_reply silent, free]
  rfl

/-- Behind it nothing waits, and its name has its value. -/
theorem next_store (store : row.command = "store") (free : g.pending = none) (w : World) :
    let stored := g.state.store (g.state.expand row.locator) (g.state.expand row.value)
    (g.next w row).pending = none ∧
      (g.next w row).state.Agrees (if w.behind g.index then stored.trigger else stored) := by
  constructor
  · rw [next, result_of_reply (Row.reply_of_store store), free]
    rfl
  · have performed := row.perform_agrees_effect w g.pending g.state
    rw [Row.effect, Row.perform_step_store store] at performed
    exact (State.pass_agrees w _ _ _).trans (performed.ite_trigger _)

/-! ## Two stores -/

/-- **The rows are stores that know nothing of each other**, and nothing waits for the first of them:
their names differ, with the variables as they are here, and neither reads the name of the other. -/
structure Independent (g : Stage) (first second : Row) : Prop where
  free : g.pending = none
  store : first.command = "store"
  store' : second.command = "store"
  apart : g.state.expand first.locator ≠ g.state.expand second.locator
  unread : g.state.expand first.locator ∉ second.names
  unread' : g.state.expand second.locator ∉ first.names

namespace Independent

theorem symm (h : g.Independent first second) : g.Independent second first :=
  ⟨h.free, h.store', h.store, h.apart.symm, h.unread', h.unread⟩

/-- If nobody sets the interrupt behind the first one, all that has changed is its name. -/
theorem next_agrees (h : g.Independent first second) (quiet : w.behind g.index = false) :
    (g.next w first).pending = none ∧
      (g.next w first).state.Agrees
        (g.state.store (g.state.expand first.locator) (g.state.expand first.value)) := by
  have behind := next_store h.store h.free w
  rwa [quiet] at behind

/-- **Both stores store what they would store alone.** -/
theorem after_agrees (h : g.Independent first second) (quiet : w.behind g.index = false) :
    let stored := (g.state.store (g.state.expand first.locator) (g.state.expand first.value)).store
      (g.state.expand second.locator) (g.state.expand second.value)
    (g.after w [first, second]).pending = none ∧
      (g.after w [first, second]).state.Agrees
        (if w.behind (g.index + 1) then stored.trigger else stored) := by
  obtain ⟨free, stored⟩ := h.next_agrees quiet
  obtain ⟨free', stored'⟩ := next_store h.store' free w
  obtain ⟨locator, value⟩ := g.state.store_expand_cells h.unread (g.state.expand first.value)
  refine ⟨free', stored'.trans ?_⟩
  rw [stored.expand, stored.expand, locator, value]
  exact (stored.store _ _).ite_trigger _

/-- **So their order makes no difference** to what a name stands for behind them. -/
theorem after_resembles (h : g.Independent first second) (quiet : w.behind g.index = false) :
    (g.after w [first, second]).state.Resembles (g.after w [second, first]).state := by
  have swapped := g.state.store_comm_resembles h.apart (g.state.expand first.value)
    (g.state.expand second.value)
  exact ((h.after_agrees quiet).2.resembles.trans (swapped.ite_trigger _)).trans
    (h.symm.after_agrees quiet).2.resembles.symm

/-- Both are passed and have no verdict, unless the interrupt is set. -/
theorem passes (h : g.Independent first second) (calm : g.state.isInterrupted = false)
    (quiet : w.behind g.index = false) (regardless : Bool) :
    g.Passes w regardless [first, second] ∧
      g.reports w [first, second]
        = [⟨g.index, first, none, false⟩, ⟨g.index + 1, second, none, false⟩] := by
  obtain ⟨whole, report⟩ := passes_store (w := w) h.store h.free calm
  obtain ⟨free, stored⟩ := h.next_agrees quiet
  obtain ⟨whole', report'⟩ :=
    passes_store (w := w) h.store' free (stored.isInterrupted.trans calm)
  have soft : ∀ {r : RowReport}, r.outcome = none → (regardless || !r.isHard) = true := by
    intro r silent
    rw [RowReport.isHard, silent]
    exact Bool.or_true _
  constructor
  · exact ⟨whole, soft (report ▸ rfl), whole', soft (report' ▸ rfl), trivial⟩
  · rw [reports, reports, reports, report, report']
    rfl

end Independent

end Stage

/-! ## Reports with two rows exchanged -/

/-- **The reports on two runs, row by row**, if behind `n` rows the second run has `second` and
`first` where the first one has `first` and `second`: there is no report on either of the two, or both
are reported on, without a verdict, and each has the number of its place. -/
inductive RowReport.Exchanged (n : Nat) (first second : Row) :
    List RowReport → List RowReport → Prop
  | before (rows : List RowReport) (few : rows.length ≤ n) : Exchanged n first second rows rows
  | behind (front rest : List RowReport) (length : front.length = n) :
      Exchanged n first second
        (front ++ ⟨n + 1, first, none, false⟩ :: ⟨n + 2, second, none, false⟩ :: rest)
        (front ++ ⟨n + 1, second, none, false⟩ :: ⟨n + 2, first, none, false⟩ :: rest)

/-- Rows without a verdict are no failures, so the two reports have as many rows and the same
verdict. -/
theorem RowReport.Exchanged.length_all {n : Nat} {first second : Row} {rows rows' : List RowReport}
    (h : Exchanged n first second rows rows') :
    rows.length = rows'.length ∧
      (rows.all fun r => !r.isFailure) = rows'.all fun r => !r.isFailure := by
  cases h with
  | before => exact ⟨rfl, rfl⟩
  | behind front rest => simp [isFailure]

/-- The endings differ in the order of two rows, in records and in the map of the variables. -/
structure Ending.Exchanged (n : Nat) (first second : Row) (e f : Ending) : Prop where
  rows : RowReport.Exchanged n first second e.rows f.rows
  fault : e.fault = f.fault
  halted : e.halted = f.halted
  state : e.state.Resembles f.state

/-- An ending with few rows is the same either way. -/
theorem Ending.Exchanged.refl {n : Nat} (first second : Row) {e : Ending}
    (few : e.rows.length ≤ n) : e.Exchanged n first second e :=
  ⟨.before _ few, rfl, rfl, .refl _⟩

namespace Stage

variable {w : World} {regardless : Bool} {g : Stage} {first second : Row}

/-- A run that does not get through some rows does not see what stands behind them: only that
something does. -/
theorem run_exchange_of_not_passes {rows : List Row} (h : ¬g.Passes w regardless rows)
    (first second : Row) (rest : List Row) :
    (g.run w regardless (rows ++ first :: second :: rest)).Exchanged rows.length first second
      (g.run w regardless (rows ++ second :: first :: rest)) := by
  have few : (g.run w regardless rows).rows.length ≤ rows.length :=
    (g.ends w regardless rows).length_le
  cases hf : (g.run w regardless rows).fault with
  | some fault =>
    rw [run_append_of_fault hf, run_append_of_fault hf]
    exact .refl first second few
  | none =>
    obtain ⟨strict, hard⟩ : regardless = false ∧
        ∃ r ∈ (g.run w regardless rows).rows, r.isHard = true := by
      simpa using mt (passes_of_run hf) h
    subst strict
    rw [run_append_of_hard hard, run_append_of_hard hard]
    exact .refl first second few

/-- **Behind rows that are passed, two independent stores can be exchanged.** -/
theorem run_exchange_of_passes {rows : List Row} (passes : g.Passes w regardless rows)
    (h : (g.after w rows).Independent first second) (index : g.index = 1)
    (quiet : w.behind (rows.length + 1) = false) (rest : List Row) :
    (g.run w regardless (rows ++ first :: second :: rest)).Exchanged rows.length first second
      (g.run w regardless (rows ++ second :: first :: rest)) := by
  rw [run_append passes, run_append passes]
  have length : (g.reports w rows).length = rows.length := length_reports w g rows
  have here : (g.after w rows).index = rows.length + 1 := by rw [after_index, index, Nat.add_comm]
  rw [← here] at quiet
  generalize g.after w rows = k at h here quiet
  cases hi : k.state.isInterrupted with
  | true =>
    have broke : ∀ row, k.fault? w row = some .interrupted := fun row =>
      fault?_eq_some_iff.2 ⟨rfl, .inl hi⟩
    rw [run_cons_of_fault (broke first), run_cons_of_fault (broke second)]
    simp only [broken, hi, if_true]
    refine .refl first second (Nat.le_of_eq ?_)
    exact (congrArg List.length (List.append_nil _)).trans length
  | false =>
    obtain ⟨passes₁, reports₁⟩ := h.passes hi quiet regardless
    obtain ⟨passes₂, reports₂⟩ := h.symm.passes hi quiet regardless
    have number : (k.after w [first, second]).index = (k.after w [second, first]).index := rfl
    have free := (h.after_agrees quiet).1.trans (h.symm.after_agrees quiet).1.symm
    have same := run_resembles number free (h.after_resembles quiet) w regardless rest
    have one := run_append passes₁ rest
    have other := run_append passes₂ rest
    rw [reports₁, here] at one
    rw [reports₂, here] at other
    rw [show first :: second :: rest = [first, second] ++ rest from rfl, one,
      show second :: first :: rest = [second, first] ++ rest from rfl, other]
    refine ⟨?_, same.fault, same.halted, same.state⟩
    change RowReport.Exchanged _ _ _ (_ ++ _ :: _ :: Ending.rows _) (_ ++ _ :: _ :: Ending.rows _)
    rw [← same.rows]
    exact .behind _ _ length

end Stage

namespace Script

/-- **Two stores in a row that know nothing of each other can be exchanged**, if nobody sets the
interrupt between the two.  Unless the run comes to the first of them, they need not even be that.
The run ends alike, with a report or with the same fault; it sends the same calls and lines, and
leaves every name with the same value; and the report is the same, but for the order of the two, each
with the number of its place. -/
theorem run_exchanged (w : World) (regardless : Bool) (script : Script) (s : State)
    {rows rest : List Row} {first second : Row}
    (split : script.rows = rows ++ first :: second :: rest)
    (h : script.Reaches w regardless s rows.length →
      (script.stage w s rows.length).Independent first second)
    (quiet : w.behind (rows.length + 1) = false) :
    let one := script.run w regardless s
    let other := (script.withRows (rows ++ second :: first :: rest)).run w regardless s
    one.2.Resembles other.2 ∧
    (∀ fault, one.1 = .error fault ↔ other.1 = .error fault) ∧
    ∀ a, one.1 = .ok a → ∃ b, other.1 = .ok b ∧
      RowReport.Exchanged rows.length first second a.rows b.rows ∧ a.passed = b.passed ∧
        a.halted = b.halted ∧ a.stepsRun = b.stepsRun ∧ a.stepsTotal = b.stepsTotal := by
  intro one other
  let turned : Script := script.withRows (rows ++ second :: first :: rest)
  have total : script.rows.length = turned.rows.length := by
    rw [split]
    simp [turned, withRows]
  have start : turned.start s = script.start s := by
    rw [Script.start, Script.start, ← total]
    rfl
  have ends : (script.ending w regardless s).Exchanged rows.length first second
      (turned.ending w regardless s) := by
    rw [ending, ending, start, split]
    by_cases passes : (script.start s).Passes w regardless rows
    · have taken : script.rows.take rows.length = rows := by rw [split, List.take_left]
      have reached : script.Reaches w regardless s rows.length := by
        refine ⟨?_, taken.symm ▸ passes⟩
        rw [split, List.length_append, List.length_cons]
        omega
      have independent := h reached
      rw [stage, taken] at independent
      exact Stage.run_exchange_of_passes passes independent rfl quiet rest
    · exact Stage.run_exchange_of_not_passes passes first second rest
  refine ⟨?_, fun fault => ?_, fun a ha => ?_⟩
  · exact ((run_snd_agrees w regardless script s).resembles.trans ends.state).trans
      (run_snd_agrees w regardless turned s).resembles.symm
  · rw [run_fst_eq_error_iff, run_fst_eq_error_iff, ends.fault]
  · obtain ⟨whole, rfl⟩ := run_fst_eq_ok_iff.1 ha
    obtain ⟨length, sound⟩ := ends.rows.length_all
    have passed : (script.ending w regardless s).passed = (turned.ending w regardless s).passed := by
      rw [ending_isCounted w regardless script s, sound, ending_isCounted w regardless turned s]
    exact ⟨_, run_fst_eq_ok_iff.2 ⟨ends.fault.symm.trans whole, rfl⟩, ends.rows, passed,
      ends.halted, length, total⟩

/-- A store whose value has a placeholder in it that looks as if it held the name of the next one: it
holds more than that.  The click behind the two, which must not succeed, gets the same cells in either
order. -/
theorem run_exchanged_stores :
    let first : Row := ⟨"store", "$\x7bn\x7d", "1 $\x7ba$\x7bb\x7d"⟩
    let second : Row := ⟨"store", "b", "$\x7bn\x7d $\x7by"⟩
    let rest : List Row := [⟨"verifyErrorOnNext", "", ""⟩, ⟨"click", "$\x7by\x7d", "$\x7bb\x7d"⟩]
    let script : Script := {
      name := "exchanged"
      vars := Variables.ofList [("n", "y"), ("a$\x7bb", "odd")]
      rows := ⟨"echo", "on", ""⟩ :: first :: second :: rest }
    let one := script.run {} false {}
    let other := (script.withRows (⟨"echo", "on", ""⟩ :: second :: first :: rest)).run {} false {}
    (script.stage {} {} 1).Independent first second ∧ one.2.Resembles other.2 ∧
      one.2.calls = [⟨"click", ["1 odd", "y $\x7by"]⟩] ∧ ∃ a b, one.1 = .ok a ∧ other.1 = .ok b ∧
        RowReport.Exchanged 1 first second a.rows b.rows ∧ a.rows.length = 5 ∧
        b.passed = false := by
  intro first second rest script one other
  have independent : (script.stage {} {} 1).Independent first second :=
    ⟨by decide +kernel, rfl, rfl, by decide +kernel, by decide +kernel, by decide +kernel⟩
  have ok : one.1 = .ok ((script.ending {} false {}).report script) :=
    run_fst_eq_ok_iff.2 ⟨by decide +kernel, rfl⟩
  have split : script.rows = [⟨"echo", "on", ""⟩] ++ first :: second :: rest := rfl
  obtain ⟨same, -, reports⟩ := run_exchanged {} false script {} split (fun _ => independent) rfl
  obtain ⟨b, ok', exchanged, passed, -⟩ := reports _ ok
  exact ⟨independent, same, by decide +kernel, _, b, ok, ok', exchanged, by decide +kernel,
    passed.symm.trans (by decide +kernel)⟩

end Script

end Rowscript
