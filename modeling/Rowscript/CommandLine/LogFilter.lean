import Rowscript.Trace

/-!
# CommandLine/LogFilter — which records are shown

A filter is a list of rules, each with a level for the records whose target starts with a given
text.  Of the rules for a record the one with the longest text decides, and of equal ones the last.
-/

namespace Rowscript.CommandLine

/-- A rule: records of a target are shown down to a level, or not at all. -/
structure LogRule where
  target : String := ""
  level : Option Level
  deriving DecidableEq, Repr

/-- Rules, of which the most specific decides. -/
structure LogFilter where
  rules : List LogRule
  deriving DecidableEq, Repr

namespace LogFilter

/-! ## Records -/

/-- The more specific of two rules for a record. -/
def moreSpecific (best : Option LogRule) (rule : LogRule) : Option LogRule :=
  match best with
  | some b => if rule.target.length < b.target.length then best else some rule
  | none => some rule

/-- The rule that decides on a record. -/
def ruleFor? (f : LogFilter) (r : Record) : Option LogRule :=
  (f.rules.filter fun rule => r.target.startsWith rule.target).foldl moreSpecific none

/-- **The record is shown.** -/
def shows (f : LogFilter) (r : Record) : Bool :=
  ((f.ruleFor? r).bind (·.level)).any r.isWithin

/-! ## Texts -/

/-- The level of a word or a digit; `off` is none of them. -/
def level? (text : String) : Option (Option Level) :=
  match text.toLower with
  | "off" | "0" => some none
  | "error" | "1" => some (some .error)
  | "warn" | "2" => some (some .warn)
  | "info" | "3" => some (some .info)
  | "debug" | "4" => some (some .debug)
  | "trace" | "5" => some (some .trace)
  | _ => none

/-- The characters of a target. -/
def isTargetChar (c : Char) : Bool := c.isAlphanum || c == '_' || c == ':' || c == '-'

/-- A rule: a level for all targets, a target with a level, or a target with nothing left out. -/
def rule? (text : String) : Option LogRule :=
  match level? text with
  | some level => some ⟨"", level⟩
  | none =>
    let cs := text.toList
    let target := String.ofList (cs.takeWhile isTargetChar)
    let target := if (level? target).isSome then "" else target
    if (cs.takeWhile isTargetChar).isEmpty then none
    else
      match cs.dropWhile isTargetChar with
      | [] | ['='] => some ⟨target, some .trace⟩
      | '=' :: level => (level? (String.ofList level)).map fun level => ⟨target, level⟩
      | _ => none

/-- **A filter**: rules with commas between them.  Without any rule only errors are shown. -/
def parse? (text : String) : Option LogFilter :=
  let parts := (text.splitOn ",").filter (!·.isEmpty)
  if parts.isEmpty then some ⟨[⟨"", some .error⟩]⟩ else (parts.mapM rule?).map (⟨·⟩)

/-- The filter where none is given. -/
def usual (verbose : Bool) : LogFilter :=
  ⟨[⟨"selenese", some (if verbose then .debug else .info)⟩, ⟨"", some .warn⟩]⟩

/-- **The filter of the environment**; one that makes no sense is as good as none. -/
def ofEnvironment (text : Option String) (verbose : Bool) : LogFilter :=
  (text.bind parse?).getD (usual verbose)

end LogFilter

end Rowscript.CommandLine
