import Rowscript.Text.Quoted

/-!
# Outcome — the verdict on a row, and the row that turns a verdict around

An `Outcome` is the verdict.  A step answers with a `Reply`: an outcome, nothing at all, or an
`Inversion` that waits for the next row and turns its reply around (`Inversion.judge`).
-/

namespace Rowscript

/-- The verdict on a row. -/
inductive Outcome where
  /-- Nothing to report. -/
  | clean
  | assertionFailed
  | verificationFailed
  | error (message : String)
  deriving DecidableEq, Repr

namespace Outcome

/-- A run goes on after a verification failure, but not after an assertion failure or an error. -/
def isOkay : Outcome → Bool
  | clean | verificationFailed => true
  | assertionFailed | error _ => false

/-- Everything but `clean` counts against the script. -/
def isFailure : Outcome → Bool
  | clean => false
  | _ => true

/-- The verdict as the user reads it. -/
def message : Outcome → String
  | clean => "ok"
  | assertionFailed => "assertion failed"
  | verificationFailed => "verification failed"
  | error message => s!"error: {message}"

/-- The verdict as it stands in a record. -/
def spelling : Outcome → String
  | clean => "Continue"
  | assertionFailed => "AssertionFailed"
  | verificationFailed => "VerificationFailed"
  | error message => s!"Error({Text.quoted message})"

end Outcome

/-- How hard an unexpected success counts. -/
inductive FailureKind where
  | assertion
  | verification
  deriving DecidableEq, Repr

namespace FailureKind

/-- The outcome of a row whose expected failure did not come. -/
def outcome : FailureKind → Outcome
  | assertion => .assertionFailed
  | verification => .verificationFailed

/-- The kind as it stands in a record. -/
def spelling : FailureKind → String
  | assertion => "Assertion"
  | verification => "Verification"

theorem outcome_isFailure (k : FailureKind) : k.outcome.isFailure = true := by cases k <;> rfl

end FailureKind

/-- A verdict to be turned around: the next row has to fail. -/
structure Inversion where
  failure : FailureKind
  deriving DecidableEq, Repr

/-- What a step answers. -/
inductive Reply where
  | done (outcome : Outcome)
  /-- The next row is turned around. -/
  | wrap (inversion : Inversion)
  /-- The step has nothing to report. -/
  | silent
  deriving DecidableEq, Repr

namespace Inversion

/-- **Turns a reply around.**  A clean reply, or none, is the failure that was not expected; any
other reply passes, an inversion too, which is spent here and wraps nothing. -/
def judge (inv : Inversion) : Reply → Outcome
  | .done .clean | .silent => inv.failure.outcome
  | .done _ | .wrap _ => .clean

/-- The inversion as it stands in a record. -/
def spelling (inv : Inversion) : String :=
  s!"Decorator \x7b failure: {inv.failure.spelling} \x7d"

/-- A row that waits to turn the next one around never stops the run. -/
def continuable (_ : Inversion) : Bool := true

end Inversion

/-- The reply as it stands in a record. -/
def Reply.spelling : Reply → String
  | done outcome => s!"Done({outcome.spelling})"
  | wrap inv => s!"Wrap({inv.spelling})"
  | silent => "Silent"

end Rowscript
