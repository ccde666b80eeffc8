import SensorTasks.Json.Encode
import SensorTasks.Network.SocketAddress
import SensorTasks.Settings.Path
import SensorTasks.Text.Blank
import SensorTasks.Toml.Parser
import SensorTasks.Toml.Printer

/-!
The configuration of the service: its defaults, what it has to satisfy, how it is written, and how
it is read from settings. A setting that is not there has its default, and settings that the
configuration does not have are passed over.
-/

namespace SensorTasks

structure ServerConfig where
  address : SocketAddress
  ledgerPath : String
  maxBodyBytes : Nat

structure MessagingConfig where
  exchange : String
  /-- How many messages of one subscription are handled at the same time. -/
  prefetch : Nat
  /-- How many deliveries wait for one subscriber. -/
  channelCapacity : Nat

structure Config where
  server : ServerConfig
  messaging : MessagingConfig
  logFilter : String

namespace Config

def standard : Config where
  server :=
    { address := ⟨.four 0 0 0 0, 8080⟩
      ledgerPath := "data/ledger"
      maxBodyBytes := 2 * 1024 * 1024 }
  messaging := { exchange := "General", prefetch := 1, channelCapacity := 64 }
  logFilter := "info"

/-! ### Validity -/

inductive Fault where
  | emptyExchange
  | noPrefetch
  | channelTooSmall (capacity prefetch : Nat)
  | noBodies
  deriving DecidableEq

def Fault.message : Fault → String
  | .emptyExchange => "messaging.exchange must not be empty"
  | .noPrefetch => "messaging.prefetch must be at least 1"
  | .channelTooSmall capacity prefetch =>
    "messaging.channel_capacity (" ++ toString capacity ++ ") must be >= prefetch (" ++
      toString prefetch ++ ")"
  | .noBodies => "server.max_body_bytes must be positive"

/-- The first fault, if there is one. -/
def fault? (c : Config) : Option Fault :=
  if Text.isBlankText c.messaging.exchange then some .emptyExchange
  else if c.messaging.prefetch = 0 then some .noPrefetch
  else if c.messaging.channelCapacity < c.messaging.prefetch then
    some (.channelTooSmall c.messaging.channelCapacity c.messaging.prefetch)
  else if c.server.maxBodyBytes = 0 then some .noBodies
  else none

theorem fault?_eq_none {c : Config} :
    c.fault? = none ↔ Text.isBlankText c.messaging.exchange = false ∧ 0 < c.messaging.prefetch ∧
      c.messaging.prefetch ≤ c.messaging.channelCapacity ∧ 0 < c.server.maxBodyBytes := by
  unfold fault?
  repeat' split
  all_goals simp_all
  all_goals omega

theorem fault?_standard : standard.fault? = none := by decide

/-! ### Writing -/

def toJson (c : Config) : Json :=
  .ofMembers [
    ("server", .ofMembers [("bind_addr", .string c.server.address.render),
      ("fjall_path", .string c.server.ledgerPath),
      ("max_body_bytes", .ofNat c.server.maxBodyBytes)]),
    ("messaging", .ofMembers [("exchange", .string c.messaging.exchange),
      ("prefetch", .ofNat c.messaging.prefetch),
      ("channel_capacity", .ofNat c.messaging.channelCapacity)]),
    ("telemetry", .ofMembers [("log_filter", .string c.logFilter)])]

/-- A heading and the lines under it. -/
def tomlSection (name : String) (entries : List (String × String)) : String :=
  "[" ++ name ++ "]\n" ++
    String.join (entries.map fun (key, value) => key ++ " = " ++ value ++ "\n")

/-- The configuration as a TOML document, which has no numbers from `2 ^ 63` on. -/
def toToml? (c : Config) : Option String := do
  let maxBodyBytes ← Toml.naturalText? c.server.maxBodyBytes
  let prefetch ← Toml.naturalText? c.messaging.prefetch
  let channelCapacity ← Toml.naturalText? c.messaging.channelCapacity
  pure ("\n".intercalate [
    tomlSection "server" [("bind_addr", Toml.stringText c.server.address.render),
      ("fjall_path", Toml.stringText c.server.ledgerPath), ("max_body_bytes", maxBodyBytes)],
    tomlSection "messaging" [("exchange", Toml.stringText c.messaging.exchange),
      ("prefetch", prefetch), ("channel_capacity", channelCapacity)],
    tomlSection "telemetry" [("log_filter", Toml.stringText c.logFilter)]])

/-! ### Reading -/

/-- A setting of a section, with the place that it has in a section written as a list. -/
def read {α : Type} (s : Setting) (place : Nat) (name : String) (convert : Setting → Option α)
    (standard : α) : Option α :=
  match s.part? place name with
  | none => some standard
  | some part => convert part

/-- A section: a table, or a list with the settings in their order. -/
def sectionOf? : Setting → Option Setting
  | .table entries => some (.table entries)
  | .list items => some (.list items)
  | _ => none

def readServer (s : Setting) : Option ServerConfig := do
  let s ← sectionOf? s
  let d := standard.server
  pure { address := ← read s 0 "bind_addr" (·.toText?.bind SocketAddress.parse?) d.address
         ledgerPath := ← read s 1 "fjall_path" Setting.toText? d.ledgerPath
         maxBodyBytes := ← read s 2 "max_body_bytes" Setting.toNatural? d.maxBodyBytes }

def readMessaging (s : Setting) : Option MessagingConfig := do
  let s ← sectionOf? s
  let d := standard.messaging
  pure { exchange := ← read s 0 "exchange" Setting.toText? d.exchange
         prefetch := ← read s 1 "prefetch" Setting.toNatural? d.prefetch
         channelCapacity := ← read s 2 "channel_capacity" Setting.toNatural? d.channelCapacity }

def readTelemetry (s : Setting) : Option String := do
  read (← sectionOf? s) 0 "log_filter" Setting.toText? standard.logFilter

def ofSettings? (s : Setting) : Option Config := do
  pure { server := ← read s 0 "server" readServer standard.server
         messaging := ← read s 1 "messaging" readMessaging standard.messaging
         logFilter := ← read s 2 "telemetry" readTelemetry standard.logFilter }

end Config

end SensorTasks
