import SensorTasks.Message.Registry
import SensorTasks.Program.Basic

/-!
The outbox, through which messages leave. What is sent has a schema and passes it, or else never
reaches the bus; what is published is trusted.
-/

namespace SensorTasks.Message

inductive MessagingError where
  | unknownKey (name : String)
  | missingSchema (key : RoutingKey)
  | schema (e : SchemaError)
  deriving DecidableEq

def MessagingError.message : MessagingError → String
  | .unknownKey name => RoutingKey.unknown name
  | .missingSchema key => "No schema registered for " ++ key.name ++ "; refusing to publish"
  | .schema e => e.message

structure Outbox where
  registry : Registry
  /-- The exchange that messages go to if nothing else is said. -/
  exchange : String

/-- Publishes a document as it is. -/
def publish {ε : Type} (exchange : String) (key : RoutingKey) (j : Json) : Action ε Unit := do
  Action.perform (.publish exchange key (.document j))
  Action.perform (.count .messagesPublished)

namespace Outbox

/-- Checks a document and publishes it. -/
def sendTo (o : Outbox) (exchange : String) (key : RoutingKey) (j : Json) :
    Action MessagingError Unit :=
  if o.registry.contains key then
    match o.registry.validate key j with
    | .error e => throw (.schema e)
    | .ok () => publish exchange key j
  else throw (.missingSchema key)

def send (o : Outbox) (key : RoutingKey) (j : Json) : Action MessagingError Unit :=
  o.sendTo o.exchange key j

end Outbox

end SensorTasks.Message
