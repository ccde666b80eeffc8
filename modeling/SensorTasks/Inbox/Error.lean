import SensorTasks.Message.Registry
import SensorTasks.Program.Basic

/-! Why an inbound message is not applied. -/

namespace SensorTasks.Inbox

open Json Ledger Message

inductive HandlerError where
  | invalidMessage (key : RoutingKey) (reason : String)
  | unsupportedKey (key : RoutingKey)
  | ledger (e : LedgerError)
  deriving DecidableEq

def HandlerError.message : HandlerError → String
  | .invalidMessage key reason => "invalid " ++ key.name ++ " message: " ++ reason
  | .unsupportedKey key => "handler does not accept routing key " ++ key.name
  | .ledger e => "storage error: " ++ e.message

inductive ConsumeError where
  | notJson
  | schema (e : SchemaError)
  | handler (e : HandlerError)
  | noHandler (key : RoutingKey)
  deriving DecidableEq

def ConsumeError.message : ConsumeError → String
  | .notJson => "payload is not JSON"
  | .schema e => e.message
  | .handler e => e.message
  | .noHandler key => "no handler registered for " ++ key.name

/-- The typed message of a payload. -/
def decode {α : Type} (d : Decoder α) (key : RoutingKey) (j : Json) : Action HandlerError α :=
  match d.fromValue j with
  | .ok a => return a
  | .error e => throw (.invalidMessage key e.message)

theorem decode_of_ok {α : Type} {d : Decoder α} {j : Json} {a : α} (h : d.fromValue j = .ok a)
    (key : RoutingKey) : decode d key j = pure a := by
  unfold decode
  rw [h]

theorem decode_of_error {α : Type} {d : Decoder α} {j : Json} {e : DecodeError}
    (h : d.fromValue j = .error e) (key : RoutingKey) :
    decode d key j = throw (.invalidMessage key e.message) := by
  unfold decode
  rw [h]

end SensorTasks.Inbox
