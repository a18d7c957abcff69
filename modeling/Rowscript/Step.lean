import Rowscript.Command
import Rowscript.Script
import Rowscript.Template
import Rowscript.Text.Numeral
import Rowscript.World

/-!
# Step — what a row does

`Row.step` turns a row into a step: a built-in command, or a call to the driver.  `Step.perform`
performs it on a state.  A fault comes back only where the run has to stop; all else is a `Reply`.
-/

namespace Rowscript

/-- Something to perform: a reply or a fault, and the state behind it. -/
abbrev Action := State → Except Fault Reply × State

/-- What a row does, with its cells not yet expanded. -/
inductive Step where
  /-- Turn the next row around. -/
  | invert (failure : FailureKind)
  | echo (locator : String)
  | pause (locator : String)
  | store (locator value : String)
  | drive (command locator value : String)
  deriving DecidableEq, Repr

/-- The step of a built-in command. -/
def Command.step (c : Command) (locator value : String) : Step :=
  match c with
  | assertErrorOnNext | assertFailureOnNext => .invert .assertion
  | verifyErrorOnNext | verifyFailureOnNext => .invert .verification
  | echo => .echo locator
  | pause => .pause locator
  | store => .store locator value

/-- **The step of a row**: a built-in command, or a call to the driver. -/
def Row.step (row : Row) : Step :=
  match Command.ofName? row.command with
  | some c => c.step row.locator row.value
  | none => .drive row.command row.locator row.value

/-- A row that goes to the driver leaves a record. -/
def Row.announce (row : Row) (s : State) : State :=
  match Command.ofName? row.command with
  | some _ => s
  | none => s.note (.forwarded row.command)

namespace Step

/-- Waits for as many milliseconds as the text says. -/
def performPause (w : World) (text : String) : Action := fun s =>
  match Text.word? text.toList with
  | none => (.ok (.done (.error s!"Unable to parse timeout: {text}")), s)
  | some ms =>
    match (s.note (.pausing ms)).wait w ms with
    | (true, s) => (.error .interrupted, s.note (.pauseInterrupted ms))
    | (false, s) => (.ok (.done .clean), s)

/-- Calls the driver.  What it refuses is the row's error, but an interrupt stops the run. -/
def performCall (w : World) (c : Call) : Action := fun s =>
  match s.call w c with
  | (.ok _, s) => (.ok (.done .clean), s)
  | (.error fault, s) =>
    if fault.isFatal then (.error fault, s)
    else
      (.ok (.done (.error fault.message)), s.note (.driverFailed c.command fault.message))

/-- **Performs a step.**  Its cells are expanded here, with the variables as they are now. -/
def perform (w : World) : Step → Action
  | invert failure => fun s => (.ok (.wrap ⟨failure⟩), s)
  | echo locator => fun s => (.ok (.done .clean), s.write w (s.expand locator))
  | pause locator => fun s => performPause w (s.expand locator) s
  | store locator value => fun s => (.ok .silent, s.store (s.expand locator) (s.expand value))
  | drive command locator value => fun s =>
      performCall w ⟨command, [s.expand locator, s.expand value]⟩ s

end Step

/-- **Performs an action and turns its reply around.**  A fault passes through. -/
def Inversion.evaluate (inv : Inversion) (act : Action) (s : State) : Except Fault Outcome × State :=
  match act s with
  | (.error fault, s) => (.error fault, s)
  | (.ok reply, s) => (.ok (inv.judge reply), s.note (.judging reply.spelling inv.failure.spelling))

end Rowscript
