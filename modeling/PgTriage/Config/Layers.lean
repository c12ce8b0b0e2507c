/-
Loading a configuration from its layers.

The defaults come first, over them the file `default.toml`, over that the file named for
the environment the application runs in, and over everything the environment variables.
A file that is missing is passed over, and one that is not well formed fails the load.
The name of the environment is read as a path from the directory of the files.
-/
import PgTriage.Config.AppConfig
import PgTriage.Config.Environment
import PgTriage.Config.Toml.Reader

namespace PgTriage.Config

/-- The files of a configuration directory: their texts by name, without the ending. -/
abbrev Directory := List (String × String)

/--
The steps of a path and the name it ends in.  A step that is empty or a single point
stays where it is.
-/
def pathSteps (path : String) : List (List Char) :=
  let parts := Text.splitAt '/' path.toList
  let steps := parts.dropLast.filter fun step => !step.isEmpty && step != ['.']
  steps ++ parts.drop (parts.length - 1)

/-- The text of the file that a path leads to. -/
def Directory.get? (files : Directory) (path : String) : Option String :=
  (files.find? fun f => pathSteps f.1 = pathSteps path).map (·.2)

/-- A file as a layer; a missing one is empty. -/
def fileLayer (files : Directory) (name : String) : Except LoadError Table :=
  match files.get? name with
  | none => .ok []
  | some text =>
    match Toml.read? text with
    | some t => .ok t
    | none => .error .malformed

/-- The environment the application runs in. -/
def runEnv (env : Environment) : String := (env.get? "APP_ENV").getD AppConfig.defaultEnv

/-- The layers laid over one another, the later ones on top. -/
def layered (layers : List Table) : Table := layers.foldl Table.over []

namespace AppConfig

/-- The configuration that files and environment describe. -/
def load (files : Directory) (env : Environment) : Except LoadError AppConfig := do
  let defaults := { standard with appEnv := runEnv env }
  let common ← fileLayer files "default"
  let specific ← fileLayer files (runEnv env)
  ofTable (layered [defaults.toTable, common, specific, env.toTable])

/-- The configuration that one document describes. -/
def ofToml (text : String) : Except LoadError AppConfig :=
  match Toml.read? text with
  | some t => ofTable t
  | none => .error .malformed

end AppConfig

end PgTriage.Config
