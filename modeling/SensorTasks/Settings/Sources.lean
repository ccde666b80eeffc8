import SensorTasks.Json.Parser
import SensorTasks.Settings.Config

/-!
Where the configuration comes from: a file, and over it the variables of the environment whose names
start with `SENSORBOX__`. The rest of such a name is a path with two underscores between its steps;
the case of the letters does not matter.
-/

namespace SensorTasks

inductive ConfigError where
  /-- The file is not of its format, or a setting is not of its type. -/
  | unreadable
  | invalid (fault : Config.Fault)
  deriving DecidableEq

def ConfigError.message : ConfigError → String
  | .unreadable => "Failed to load configuration"
  | .invalid fault => "Configuration validation failed: " ++ fault.message

namespace Config

inductive Format where
  | toml
  | json
  deriving DecidableEq

/-- The settings of a file, which may start with a byte order mark. -/
def readFile? (format : Format) (text : String) : Option Setting :=
  let text := String.ofList (match text.toList with
    | c :: cs => if c.toNat == 0xFEFF then cs else c :: cs
    | [] => [])
  match format with
  | .toml => Toml.parse? text
  | .json =>
    match Json.parse? text with
    | some (.object members) => some (.table (Setting.ofMembers members))
    | _ => none

/-- The path in the name of a variable. -/
def variablePath? (name : String) : Option String :=
  let start := "sensorbox__".toList
  let lower := Text.toLower name.toList
  if start.isPrefixOf lower then
    some (String.ofList (Text.replaceAll "__".toList ".".toList (lower.drop start.length)))
  else none

/-- The settings with everything that variables say, the later ones over the earlier ones. -/
def withVariables (settings : Setting) : List (String × String) → Setting
  | [] => settings
  | (name, text) :: vars =>
    match variablePath? name with
    | none => withVariables settings vars
    | some path =>
      withVariables (Setting.assignNamed path (.ofVariable text) settings) vars

def ofSources? (file : Option (Format × String)) (vars : List (String × String)) :
    Option Config := do
  let settings ← match file with
    | none => some (.table [])
    | some (format, text) => readFile? format text
  let named := settings.entries.foldl
    (fun s (name, part) => Setting.assignNamed name part s) (.table [])
  ofSettings? (withVariables named vars)

def load (file : Option (Format × String)) (vars : List (String × String)) :
    Except ConfigError Config :=
  match ofSources? file vars with
  | none => .error .unreadable
  | some c =>
    match c.fault? with
    | some fault => .error (.invalid fault)
    | none => .ok c

end Config

end SensorTasks
