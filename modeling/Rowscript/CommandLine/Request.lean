/-!
# CommandLine/Request — what a command line asks for

Words that start with a hyphen are options.  An option that takes a value has it behind an equals
sign or as the next word, and a short one right behind its letter as well.  Behind two hyphens every
word stands for itself.  Names of options are never cut short, and a flag is given once.
-/

namespace Rowscript.CommandLine

/-- What runs are asked for. -/
structure RunRequest where
  scripts : List String
  /-- Assignments, not yet read. -/
  assignments : List String := []
  continueOnFailure : Bool := false
  config : Option String := none
  json : Bool := false
  deriving DecidableEq, Repr

/-- What a command line asks for. -/
inductive Request where
  | run (verbose : Bool) (request : RunRequest)
  /-- The names of the built-in commands. -/
  | listCommands (verbose : Bool)
  | version
  | help
  deriving DecidableEq, Repr

/-! ## Words -/

/-- A word of the command line. -/
inductive Piece where
  /-- Two hyphens alone. -/
  | separator
  | long (name : String) (value : Option String)
  /-- A hyphen, a letter, and what stands behind it. -/
  | short (letter : Char) (rest : List Char)
  | word (text : String)
  deriving DecidableEq, Repr

namespace Piece

/-- The parts of a text before and behind its first equals sign. -/
def splitValue (cs : List Char) : String × Option String :=
  let name := cs.takeWhile (· != '=')
  match cs.dropWhile (· != '=') with
  | _ :: value => (String.ofList name, some (String.ofList value))
  | [] => (String.ofList name, none)

/-- What a word is. -/
def of (arg : String) : Piece :=
  match arg.toList with
  | ['-', '-'] => separator
  | '-' :: '-' :: cs => long (splitValue cs).1 (splitValue cs).2
  | '-' :: letter :: cs => short letter cs
  | _ => word arg

/-- The value right behind the letter of a short option; an equals sign in front of it is no part of
it. -/
def attached? : List Char → Option String
  | [] => none
  | '=' :: cs => some (String.ofList cs)
  | cs => some (String.ofList cs)

end Piece

/-! ## The words behind `run` -/

/-- What has been read behind `run`. -/
structure RunDraft where
  request : RunRequest := ⟨[], [], false, none, false⟩
  verbose : Bool := false

namespace RunDraft

/-- One more script; its path is not empty. -/
def addScript? (d : RunDraft) (path : String) : Option RunDraft :=
  if path.isEmpty then none
  else some { d with request := { d.request with scripts := d.request.scripts ++ [path] } }

def addAssignment (d : RunDraft) (text : String) : RunDraft :=
  { d with request := { d.request with assignments := d.request.assignments ++ [text] } }

/-- The configuration file; its path is not empty, and it is given once. -/
def setConfig? (d : RunDraft) (path : String) : Option RunDraft :=
  if path.isEmpty || d.request.config.isSome then none
  else some { d with request := { d.request with config := some path } }

/-- Raises a flag that has not been raised. -/
def raise? (d : RunDraft) (name : String) : Option RunDraft :=
  match name with
  | "verbose" => if d.verbose then none else some { d with verbose := true }
  | "json" =>
    if d.request.json then none
    else some { d with request := { d.request with json := true } }
  | "continue-on-failure" =>
    if d.request.continueOnFailure then none
    else some { d with request := { d.request with continueOnFailure := true } }
  | _ => none

/-- There is a script at least. -/
def finish? (d : RunDraft) (verbose : Bool) : Option Request :=
  if d.request.scripts.isEmpty then none else some (.run (verbose || d.verbose) d.request)

/-- The next word, if it can be a value. -/
def nextValue? : List String → Option (String × List String)
  | [] => none
  | arg :: args =>
    match Piece.of arg with
    | .word text => some (text, args)
    | _ => none

/-- Reads on, through as many words as the first argument allows. -/
def read? (verbose : Bool) : Nat → RunDraft → List String → Option Request
  | _, d, [] => d.finish? verbose
  | 0, _, _ => none
  | fuel + 1, d, arg :: args =>
    match Piece.of arg with
    | .separator => (args.foldlM addScript? d).bind (·.finish? verbose)
    | .word path => (d.addScript? path).bind fun d => read? verbose fuel d args
    | .long "var" (some text) => read? verbose fuel (d.addAssignment text) args
    | .long "var" none =>
      (nextValue? args).bind fun (text, args) => read? verbose fuel (d.addAssignment text) args
    | .long "config" (some path) =>
      (d.setConfig? path).bind fun d => read? verbose fuel d args
    | .long "config" none =>
      (nextValue? args).bind fun (path, args) =>
        (d.setConfig? path).bind fun d => read? verbose fuel d args
    | .long "help" none => some .help
    | .long name none => (d.raise? name).bind fun d => read? verbose fuel d args
    | .long _ (some _) => none
    | .short 'v' rest =>
      match Piece.attached? rest with
      | some text => read? verbose fuel (d.addAssignment text) args
      | none =>
        (nextValue? args).bind fun (text, args) => read? verbose fuel (d.addAssignment text) args
    | .short 'h' _ => some .help
    | .short _ _ => none

end RunDraft

/-! ## The whole command line -/

/-- The words behind `commands`. -/
def readList? (verbose : Bool) : (own : Bool) → List String → Option Request
  | own, [] => some (.listCommands (verbose || own))
  | own, arg :: args =>
    match Piece.of arg with
    | .separator => if args.isEmpty then some (.listCommands (verbose || own)) else none
    | .long "verbose" none => if own then none else readList? verbose true args
    | .long "help" none | .short 'h' _ => some .help
    | _ => none

/-- The words behind `help`. -/
def readHelp? : List String → Option Request
  | [] | ["run"] | ["commands"] | ["help"] => some .help
  | _ => none

/-- The words in front of the name of what is to be done, that name, and the words behind it. -/
def Request.read? (verbose : Bool) : List String → Option Request
  | [] => none
  | arg :: args =>
    match Piece.of arg with
    | .long "verbose" none => if verbose then none else Request.read? true args
    | .long "version" none | .short 'V' _ => some .version
    | .long "help" none | .short 'h' _ => some .help
    | .word "run" => RunDraft.read? verbose args.length {} args
    | .word "commands" => readList? verbose false args
    | .word "help" => readHelp? args
    | _ => none

/-- **What a command line asks for**, if it makes sense. -/
def Request.parse? (args : List String) : Option Request := Request.read? false args

end Rowscript.CommandLine
