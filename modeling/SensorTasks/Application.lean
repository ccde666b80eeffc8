import SensorTasks.Http.Service
import SensorTasks.Inbox.Loop
import SensorTasks.Settings.Config

/-!
The whole application: the service that answers requests and the consumer that handles messages,
over one ledger and one bus.
-/

namespace SensorTasks

structure Application where
  service : Http.Service
  consumer : Inbox.Consumer

namespace Application

/-- An application with an empty ledger whose consumer listens. -/
def start (c : Config) (clock : Instant) : Application :=
  let outbox : Message.Outbox := ⟨.standard, c.messaging.exchange⟩
  { service := ⟨outbox, c.server.maxBodyBytes⟩
    consumer := (Inbox.Consumer.idle .standard c.messaging.prefetch
      (.new c.messaging.channelCapacity clock)).start }

/-- Answers a request at a time, and handles the messages that come of it. -/
def respond (a : Application) (clock : Instant) (r : Http.Request) : Http.Response × Application :=
  let (response, world) := (a.service.respond r).run { a.consumer.world with clock := clock }
  (response, { a with consumer := { a.consumer with world := world }.settle })

end Application

end SensorTasks
