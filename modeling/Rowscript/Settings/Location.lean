/-!
# Settings/Location — where the configuration file is

A path in the environment names the file itself.  Otherwise the file is `config.toml` in a directory
of its own, below the base directory for configuration: the one the environment names, if that is an
absolute path, or else `.config` in the home directory.
-/

namespace Rowscript

/-- The part of the environment that decides. -/
structure Environment where
  home : Option String := none
  /-- The base directory for configuration. -/
  configHome : Option String := none
  /-- The configuration file itself. -/
  configFile : Option String := none
  deriving DecidableEq, Repr

/-- A path below a directory, with one slash between them. -/
def joinPath (directory path : String) : String :=
  if directory.isEmpty || directory.endsWith "/" then directory ++ path
  else directory ++ "/" ++ path

namespace Environment

/-- The base directory: an absolute path, or `.config` at home. -/
def configBase? (env : Environment) : Option String :=
  match env.configHome.filter (·.startsWith "/") with
  | some path => some path
  | none => env.home.map (joinPath · ".config")

/-- The program's own directory. -/
def configDirectory? (env : Environment) : Option String :=
  env.home.bind fun _ => env.configBase?.map (joinPath · "selenese-runner")

/-- **The path of the configuration file.** -/
def configPath? (env : Environment) : Option String :=
  match env.configFile.filter (!·.isEmpty) with
  | some path => some path
  | none => env.configDirectory?.map (joinPath · "config.toml")

end Environment

end Rowscript
