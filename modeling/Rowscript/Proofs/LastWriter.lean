import Rowscript.Proofs.Progress
import Rowscript.Proofs.Variables

/-!
# Proofs/LastWriter — the last store to a name is its value

    value before the run ◂── variable of the script ◂── store ◂── … ◂── store

Of all that gives a name a value, the last one counts (`Script.InForce`).  A store gives the name
that its first cell expands to what its second cell expands to, both with the variables in force
before it; nothing else in a run touches a variable.  So it is at every row that a run reaches and at
its end (`Script.last_writer_wins`).
-/

namespace Rowscript

/-- **Seeding gives the names of the map their values**, and leaves the other names alone. -/
theorem State.get?_seed (s : State) (v : Variables) (name : String) :
    (s.seed v).vars.get? name = (v.get? name).or (s.vars.get? name) := by
  rw [seed_vars, Variables.get?_overlay]

namespace Row

/-- **A row touches the variable that it stores**, and no other; whatever waits for the row, and
whatever becomes of it. -/
theorem get?_perform (w : World) (pending : Option Inversion) (row : Row) (s : State)
    (name : String) :
    (row.perform w pending s).2.vars.get? name =
      if row.command = "store" ∧ s.expand row.locator = name then some (s.expand row.value)
      else s.vars.get? name := by
  rw [(row.perform_agrees_effect w pending s).vars, effect_vars]
  by_cases store : row.command = "store"
  · simp only [store, if_true, true_and, Variables.get?_insert, eq_comm]
  · simp only [store, if_false, false_and]

end Row

namespace Script

variable {w : World} {regardless : Bool} {script : Script} {s : State} {name : String} {k : Nat}
  {v : Option String}

/-- Row `i` is a store that gives the name the value, in the state that the run has come to. -/
def Stores (w : World) (script : Script) (s : State) (i : Nat) (name value : String) : Prop :=
  ∃ hi : i < script.rows.length, script.rows[i].command = "store" ∧
    (script.stage w s i).state.expand script.rows[i].locator = name ∧
    (script.stage w s i).state.expand script.rows[i].value = value

/-- No row from the one number up to the other stores the name. -/
def Idle (w : World) (script : Script) (s : State) (i k : Nat) (name : String) : Prop :=
  ∀ j, i ≤ j → j < k → ∀ value, ¬script.Stores w s j name value

theorem Idle.self (w : World) (script : Script) (s : State) (k : Nat) (name : String) :
    script.Idle w s k k name :=
  fun _ hkj hjk => absurd hjk (Nat.not_lt.2 hkj)

theorem Idle.succ {i : Nat} (h : script.Idle w s i k name)
    (idle : ∀ value, ¬script.Stores w s k name value) : script.Idle w s i (k + 1) name := by
  intro j hij hj
  obtain hjk | rfl := Nat.lt_succ_iff_lt_or_eq.1 hj
  · exact h j hij hjk
  · exact idle

/-- **What a name stands for behind the first `k` rows**: what the last of their stores to it gave
it; without one, what the script's variables say; without that, what it stood for before. -/
inductive InForce (w : World) (script : Script) (s : State) (k : Nat) (name : String) :
    Option String → Prop
  | stored (i : Nat) (value : String) (before : i < k) (stores : script.Stores w s i name value)
      (last : script.Idle w s (i + 1) k name) : InForce w script s k name (some value)
  | seeded (value : String) (idle : script.Idle w s 0 k name)
      (seed : script.vars.get? name = some value) : InForce w script s k name (some value)
  | initial (idle : script.Idle w s 0 k name) (unseeded : script.vars.get? name = none) :
      InForce w script s k name (s.vars.get? name)

/-- A row that does not store the name leaves it as it is. -/
theorem InForce.succ (h : script.InForce w s k name v)
    (idle : ∀ value, ¬script.Stores w s k name value) : script.InForce w s (k + 1) name v := by
  cases h with
  | stored i value before stores last =>
    exact .stored i value (Nat.lt_succ_of_lt before) stores (last.succ idle)
  | seeded value still seed => exact .seeded value (still.succ idle) seed
  | initial still unseeded => exact .initial (still.succ idle) unseeded

/-- **The invariant of a run**: at every stage a name stands for what the last writer gave it. -/
theorem inForce_stage (w : World) (script : Script) (s : State) (name : String)
    (hk : k ≤ script.rows.length) :
    script.InForce w s k name ((script.stage w s k).state.vars.get? name) := by
  induction k with
  | zero =>
    have idle := Idle.self w script s 0 name
    change script.InForce w s 0 name ((State.seed _ _).vars.get? name)
    rw [State.get?_seed]
    cases seed : script.vars.get? name with
    | none => exact .initial idle seed
    | some value => exact .seeded value idle seed
  | succ k ih =>
    have here : k < script.rows.length := hk
    rw [stage_succ w s here, Stage.next_vars, Row.get?_perform]
    split
    case isTrue stores =>
      exact .stored k _ (Nat.lt_succ_self k) ⟨here, stores.1, stores.2, rfl⟩ (.self w script s _ name)
    case isFalse idle =>
      exact (ih (Nat.le_of_lt here)).succ fun value ⟨_, store, named, _⟩ => idle ⟨store, named⟩

/-- A row gives a name one value only. -/
theorem Stores.unique {i : Nat} {value other : String} (h : script.Stores w s i name value)
    (k : script.Stores w s i name other) : value = other := by
  obtain ⟨_, -, -, rfl⟩ := h
  obtain ⟨_, -, -, rfl⟩ := k
  rfl

/-- So there is one last writer, and one value. -/
theorem InForce.unique {u : Option String} (h : script.InForce w s k name v)
    (h' : script.InForce w s k name u) : v = u := by
  cases h with
  | stored i value before stores last =>
    cases h' with
    | stored j other before' stores' last' =>
      obtain hij | rfl | hji := Nat.lt_trichotomy i j
      · exact absurd stores' (last j hij before' other)
      · exact congrArg some (stores.unique stores')
      · exact absurd stores (last' i hji before value)
    | seeded _ idle => exact absurd stores (idle i (Nat.zero_le i) before value)
    | initial idle => exact absurd stores (idle i (Nat.zero_le i) before value)
  | seeded value idle seed =>
    cases h' with
    | stored j other before' stores' => exact absurd stores' (idle j (Nat.zero_le j) before' other)
    | seeded other _ seed' => exact seed.symm.trans seed'
    | initial _ unseeded => cases seed.symm.trans unseeded
  | initial idle unseeded =>
    cases h' with
    | stored j other before' stores' => exact absurd stores' (idle j (Nat.zero_le j) before' other)
    | seeded other _ seed' => cases seed'.symm.trans unseeded
    | initial => rfl

/-- **At every stage a name stands for what the last writer gave it, and for nothing else.** -/
theorem inForce_iff (hk : k ≤ script.rows.length) :
    script.InForce w s k name v ↔ (script.stage w s k).state.vars.get? name = v :=
  ⟨(inForce_stage w script s name hk).unique, fun h => h ▸ inForce_stage w script s name hk⟩

/-- **The last writer wins**, at every row that a run reaches and at its end.  The rows before a row
that is reached are all started, and the run starts no others.  What one row does to the name is a
matter of its command, its cells and the variables in force: not of what waits for it, nor of the
verdict on it. -/
theorem last_writer_wins (w : World) (regardless : Bool) (script : Script) (s : State)
    (name : String) :
    let n := script.started w regardless s
    (∀ k, script.Reaches w regardless s k →
      (∀ v, script.InForce w s k name v ↔ (script.stage w s k).state.vars.get? name = v) ∧
        ∀ i, i < k → script.Starts w regardless s i) ∧
    (∀ v, script.InForce w s n name v ↔ (script.run w regardless s).2.vars.get? name = v) ∧
    (∀ i, i < n ↔ script.Starts w regardless s i) ∧
    ∀ (row : Row) (pending : Option Inversion) (before : State),
      (row.perform w pending before).2.vars.get? name =
        if row.command = "store" ∧ before.expand row.locator = name then
          some (before.expand row.value)
        else before.vars.get? name := by
  intro n
  refine ⟨fun k reached => ⟨fun v => ?_, fun i => reached.starts⟩, fun v => ?_,
    fun i => lt_started_iff, fun row pending before => row.get?_perform w pending before name⟩
  · exact inForce_iff (Nat.le_of_lt reached.1)
  · rw [run_snd_keeps State.vars State.note_vars State.trigger_vars]
    exact inForce_iff (started_le w regardless script s)

/-- A store that must not succeed counts like any other, and stops the run: the store behind it comes
too late. -/
theorem last_writer_wins_decorated :
    let script : Script := {
      name := "writers"
      vars := Variables.ofList [("x", "seed")]
      rows := [⟨"store", "x", "first"⟩, ⟨"assertErrorOnNext", "", ""⟩,
        ⟨"store", "x", "${x} and second"⟩, ⟨"store", "x", "third"⟩] }
    script.Reaches {} false {} 2 ∧ script.InForce {} {} 2 "x" (some "first") ∧
      script.started {} false {} = 3 ∧ script.InForce {} {} 3 "x" (some "first and second") := by
  intro script
  have reached : script.Reaches {} false {} 2 :=
    ⟨by decide, by decide +kernel, rfl, by decide +kernel, rfl, trivial⟩
  have started : script.started {} false {} = 3 := by decide +kernel
  obtain ⟨before, left, -⟩ := last_writer_wins {} false script {} "x"
  rw [started] at left
  exact ⟨reached, ((before 2 reached).1 _).2 (by decide +kernel), started,
    (left _).2 (by decide +kernel)⟩

end Script

end Rowscript
