import SensorTasks.Application
import SensorTasks.CommandLine
import SensorTasks.Settings.Sources
import Std.Time.DateTime.Timestamp

/-!
The program. `config` prints the configuration as TOML. `serve` answers requests: every line of the
standard input is a request as JSON, and gets a response as JSON on a line of its own.
-/

namespace SensorTasks.Main

open CommandLine

/-! ### Sources of the configuration -/

def defaultPath : String := "config/sensorbox.toml"

/-- The variables that set something. -/
def variableNames : List String :=
  ["SERVER__BIND_ADDR", "SERVER__FJALL_PATH", "SERVER__MAX_BODY_BYTES", "MESSAGING__EXCHANGE",
   "MESSAGING__PREFETCH", "MESSAGING__CHANNEL_CAPACITY", "TELEMETRY__LOG_FILTER"].map
    ("SENSORBOX__" ++ ·)

def readVariables : IO (List (String × String)) :=
  variableNames.filterMapM fun name => do
    pure ((← IO.getEnv name).map (name, ·))

def formatOf (path : String) : Config.Format :=
  if path.endsWith ".json" then .json else .toml

/-- The text of a file, if there is such a file. -/
def readFile? (path : String) : IO (Option String) := do
  try
    pure (some (← IO.FS.readFile path))
  catch
    | .noFileOrDirectory .. => pure none
    | e => throw e

def loadConfig (path : Option String) : IO (Except ConfigError Config) := do
  let path ← match path with
    | some path => pure path
    | none => pure ((← IO.getEnv "SENSORBOX_CONFIG").getD defaultPath)
  let file := (← readFile? path).map fun text => (formatOf path, text)
  pure (Config.load file (← readVariables))

/-! ### Requests on lines -/

def textMember? (j : Json) (key : String) : Option String :=
  match j.get? key with
  | some (.string s) => some s
  | _ => none

/-- The request of a line. -/
def request? (line : String) : Option Http.Request := do
  let j ← Json.parse? line
  let body := (textMember? j "body").getD ""
  pure { method := ← textMember? j "method"
         target := ← textMember? j "target"
         user := textMember? j "user"
         contentType := textMember? j "contentType" <|>
           if body.isEmpty then none else some "application/json"
         body := body }

def payloadJson : Payload → Json
  | .document j => j
  | .text s => .string s

def responseLine (r : Http.Response) : String :=
  (Json.ofMembers (("status", .ofNat r.status) ::
    Json.optional "body" payloadJson r.body)).render

def now : IO Instant := do
  let t ← Std.Time.Timestamp.now
  let d := t.toDurationSinceUnixEpoch
  pure ((Instant.ofSecond? d.second.val d.nano.val.toNat).getD .epoch)

partial def serve (a : Application) (input output : IO.FS.Stream) : IO Unit := do
  let line ← input.getLine
  if line.isEmpty then return
  let clock ← now
  let (response, a) := match request? line with
    | some r => a.respond clock r
    | none => (.empty 400, a)
  output.putStrLn (responseLine response)
  output.flush
  serve a input output

/-! ### Subcommands -/

def usage : String :=
  "Usage: sensor-tasks [--config <FILE>] serve [--address <ADDRESS>]\n" ++
  "       sensor-tasks [--config <FILE>] config\n"

def runConfig (c : Config) : IO UInt32 := do
  match c.toToml? with
  | some text =>
    IO.print text
    pure 0
  | none =>
    IO.eprintln "Failed to render configuration"
    pure 1

def runServe (c : Config) (address : Option SocketAddress) : IO UInt32 := do
  let c := { c with server := { c.server with address := address.getD c.server.address } }
  IO.eprintln ("Serving " ++ c.server.address.render)
  serve (.start c (← now)) (← IO.getStdin) (← IO.getStdout)
  pure 0

def run (i : Invocation) : IO UInt32 := do
  match ← loadConfig i.configPath with
  | .error e =>
    IO.eprintln e.message
    pure 1
  | .ok c =>
    match i.subcommand with
    | .serve address => runServe c address
    | .config => runConfig c

end SensorTasks.Main

def main (args : List String) : IO UInt32 := do
  match SensorTasks.CommandLine.parse args with
  | .ok i => SensorTasks.Main.run i
  | .error .help =>
    IO.print SensorTasks.Main.usage
    pure 0
  | .error _ =>
    IO.eprint SensorTasks.Main.usage
    pure 2
