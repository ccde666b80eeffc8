import SensorTasks.Network.SocketAddress

/-!
The command line: a subcommand, `serve` or `config`, and options with values. `--config` may stand
before or after the subcommand, where the one after it counts; `--address` belongs to `serve`. The
value of an option is the next word or is written to the option with an equals sign. A value that
is a word of its own is looked at only when the next option or the end of the words is reached.
-/

namespace SensorTasks.CommandLine

inductive Subcommand where
  | serve (address : Option SocketAddress)
  | config

structure Invocation where
  /-- The path of the configuration file. -/
  configPath : Option String
  subcommand : Subcommand

inductive UsageError where
  | nothingGiven
  | missingSubcommand
  | unknownSubcommand
  /-- An option that there is not, or one word too many. -/
  | unknownWord
  | missingValue
  | badValue
  /-- A value for an option that takes none. -/
  | unwantedValue
  | repeatedOption
  /-- Not a mistake: help was asked for. -/
  | help
  deriving DecidableEq

/-- The three lists of words: the ones of the program, and those of each subcommand. -/
inductive Level where
  | program
  | serve
  | config
  deriving DecidableEq

inductive Opt where
  | config
  | address
  | help
  deriving DecidableEq

def Level.option? (level : Level) (name : String) : Option Opt :=
  if name = "config" then some .config
  else if name = "address" && level = .serve then some .address
  else if name = "help" then some .help
  else none

/-! ### The words of one level -/

structure Given where
  configPath : Option String := none
  address : Option SocketAddress := none
  /-- The last option, with its value once that has come, until it is looked at. -/
  pending : Option (Opt × Option String) := none

namespace Given

/-- The value of an option is taken. -/
def set (g : Given) (o : Opt) (value : String) : Except UsageError Given :=
  match o with
  | .config =>
    if g.configPath.isSome then .error .repeatedOption
    else if value.isEmpty then .error .missingValue
    else .ok { g with configPath := some value }
  | .address =>
    if g.address.isSome then .error .repeatedOption
    else
      match SocketAddress.parse? value with
      | some a => .ok { g with address := some a }
      | none => .error .badValue
  | .help => .error .help

/-- The last option is looked at. -/
def settle (g : Given) : Except UsageError Given :=
  match g.pending with
  | none => .ok g
  | some (_, none) => .error .missingValue
  | some (o, some value) => { g with pending := none }.set o value

def awaitsValue (g : Given) : Bool :=
  match g.pending with
  | some (_, none) => true
  | _ => false

end Given

def askHelp (g : Given) : Except UsageError Given :=
  g.settle.bind fun _ => .error .help

/-- An option by its long name. -/
def takeOption (level : Level) (name : String) (value : Option String) (g : Given) :
    Except UsageError Given :=
  match level.option? name, value with
  | none, _ => .error .unknownWord
  | some .help, some _ => .error .unwantedValue
  | some .help, none => askHelp g
  | some o, some value => g.settle.bind (·.set o value)
  | some o, none => g.settle.map ({ · with pending := some (o, none) })

/-- A word that is no option. -/
def takeWord (level : Level) (word : String) (g : Given) : Except UsageError Given :=
  match g.pending with
  | some (o, none) => .ok { g with pending := some (o, some word) }
  | _ => .error (if level = .program then .unknownSubcommand else .unknownWord)

/-- A word in which options are looked for. -/
def takeAny (level : Level) (word : String) (g : Given) : Except UsageError Given :=
  match word.toList with
  | '-' :: '-' :: cs =>
    let name := cs.takeWhile (· != '=')
    let value := String.ofList (cs.drop (name.length + 1))
    takeOption level (String.ofList name) (if name.length < cs.length then some value else none) g
  | '-' :: 'h' :: _ => askHelp g
  | '-' :: _ :: _ => .error .unknownWord
  | _ => takeWord level word g

/-- After two dashes no word is an option, and no level has other words. -/
def afterDashes (level : Level) (subcommands : List String) : List String → Except UsageError Unit
  | [] => .ok ()
  | word :: _ =>
    .error
      (if level = .program && !subcommands.contains word then .unknownSubcommand else .unknownWord)

def takeAll (level : Level) (g : Given) : List String → Except UsageError Given
  | [] => g.settle
  | word :: words =>
    if word = "--" then
      match afterDashes level [] words with
      | .error e => .error e
      | .ok () => g.settle
    else
      match takeAny level word g with
      | .error e => .error e
      | .ok g => takeAll level g words

/-! ### The whole line -/

/-- Help on a subcommand. -/
def helpOn : List String → UsageError
  | [] => .help
  | ["serve"] | ["config"] | ["help"] => .help
  | _ => .unknownSubcommand

def invocation (before after : Given) (subcommand : Subcommand) : Invocation where
  configPath := after.configPath <|> before.configPath
  subcommand := subcommand

/-- The words after a subcommand, with what stood before it. -/
def finish (before : Given) (name : String) (words : List String) :
    Except UsageError Invocation := do
  if name = "help" then .error (helpOn words)
  else if name = "serve" then
    let after ← takeAll .serve {} words
    pure (invocation (← before.settle) after (.serve after.address))
  else
    let after ← takeAll .config {} words
    pure (invocation (← before.settle) after .config)

def subcommands : List String := ["serve", "config", "help"]

/-- The words ended without a subcommand. -/
def withoutSubcommand (g : Given) : UsageError :=
  match g.settle with
  | .error e => e
  | .ok g => if g.configPath.isSome then .missingSubcommand else .nothingGiven

def takeProgram (g : Given) : List String → Except UsageError Invocation
  | [] => .error (withoutSubcommand g)
  | word :: words =>
    if !g.awaitsValue && subcommands.contains word then finish g word words
    else if word = "--" then
      match afterDashes .program subcommands words with
      | .error e => .error e
      | .ok () => .error (withoutSubcommand g)
    else
      match takeAny .program word g with
      | .error e => .error e
      | .ok g => takeProgram g words

def parse (words : List String) : Except UsageError Invocation := takeProgram {} words

end SensorTasks.CommandLine
