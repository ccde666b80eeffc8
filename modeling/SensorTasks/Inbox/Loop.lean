import SensorTasks.Inbox.Dispatch

/-!
The loops that take messages from the bus, one for every key with a handler. A loop takes one
message at a time and gives it to a job of its own, of which only so many run at once; while none is
free it holds the message. A message that is refused is counted and noted, and the loop goes on.
-/

namespace SensorTasks.Inbox

open Message

/-- A message that is being handled. -/
structure Job where
  delivery : Delivery
  rest : Program (Except ConsumeError Unit)

structure Loop where
  subscription : Subscription
  held : Option Delivery
  jobs : List Job

/-- A message that was refused, and why. -/
structure Refusal where
  key : RoutingKey
  error : ConsumeError

/-- The loops and the world that they act on. -/
structure Consumer where
  registry : Registry
  /-- How many jobs of a loop may run at once. -/
  prefetch : Nat
  prefetch_pos : 0 < prefetch
  world : World
  loops : List Loop
  /-- The messages refused so far, the first one first. -/
  refused : List Refusal

namespace Consumer

/-- A consumer without loops. -/
def idle (registry : Registry) (prefetch : Nat) (world : World) : Consumer where
  registry := registry
  prefetch := max prefetch 1
  prefetch_pos := zero_lt_max_one prefetch
  world := world
  loops := []
  refused := []

/-- Subscribes to one key and starts its loop. -/
def startLoop (c : Consumer) (key : RoutingKey) : Consumer :=
  let (subscription, bus) := c.world.bus.subscribe key
  { c with
    world := { c.world with bus := bus }
    loops := c.loops ++ [⟨subscription, none, []⟩] }

/-- Starts the loops of all keys that have a handler. -/
def start (c : Consumer) : Consumer := Handler.keys.foldl startLoop c

/-- Stops all loops: what they held is lost. -/
def stop (c : Consumer) : Consumer :=
  { c with
    world :=
      { c.world with bus := c.loops.foldl (fun bus l => bus.close l.subscription) c.world.bus }
    loops := [] }

/-- Counts the outcome of a job. -/
def conclude (c : Consumer) (key : RoutingKey) : Except ConsumeError Unit → Consumer
  | .ok () =>
    { c with world := { c.world with metrics := c.world.metrics.count .messagesConsumed } }
  | .error e =>
    { c with
      world := { c.world with metrics := c.world.metrics.count .messagesRejected }
      refused := c.refused ++ [⟨key, e⟩] }

/-! ### Moves -/

def setLoop (c : Consumer) (i : Nat) (l : Loop) : Consumer :=
  { c with loops := c.loops.set i l }

/-- A loop that holds nothing takes the next message of its subscription. -/
def receive? (c : Consumer) (i : Nat) : Option Consumer :=
  match c.loops[i]? with
  | none => none
  | some l =>
    if l.held.isSome then none
    else
      match c.world.bus.receive l.subscription with
      | none => none
      | some (d, bus) =>
        some ({ c with world := { c.world with bus := bus } }.setLoop i { l with held := some d })

/-- The program that handles a delivery. -/
def job (c : Consumer) (d : Delivery) : Job :=
  ⟨d, (process c.registry d.key d.payload).run⟩

/-- A loop gives the message that it holds to a job, if one more may run. -/
def dispatch? (c : Consumer) (i : Nat) : Option Consumer :=
  match c.loops[i]? with
  | none => none
  | some l =>
    match l.held with
    | none => none
    | some d =>
      if l.jobs.length < c.prefetch then
        some (c.setLoop i { l with held := none, jobs := l.jobs ++ [c.job d] })
      else none

/-- A job carries out its next command, or ends. -/
def advance? (c : Consumer) (i j : Nat) : Option Consumer :=
  match c.loops[i]? with
  | none => none
  | some l =>
    match l.jobs[j]? with
    | none => none
    | some job =>
      match job.rest with
      | .done outcome =>
        some ((c.setLoop i { l with jobs := l.jobs.eraseIdx j }).conclude job.delivery.key outcome)
      | .call command next =>
        let (answer, world) := command.run c.world
        some ({ c with world := world }.setLoop i
          { l with jobs := l.jobs.set j { job with rest := next answer } })

/-- A background send to a loop completes. -/
def arrive? (c : Consumer) (i : Nat) : Option Consumer :=
  match c.loops[i]? with
  | none => none
  | some l => some { c with world := { c.world with bus := c.world.bus.arrive l.subscription } }

/-- Something moves. -/
inductive Step : Consumer → Consumer → Prop where
  | receive {c c' : Consumer} {i : Nat} (h : c.receive? i = some c') : Step c c'
  | dispatch {c c' : Consumer} {i : Nat} (h : c.dispatch? i = some c') : Step c c'
  | advance {c c' : Consumer} {i j : Nat} (h : c.advance? i j = some c') : Step c c'
  | arrive {c c' : Consumer} {i : Nat} (h : c.arrive? i = some c') : Step c c'
  /-- Somebody publishes a message. -/
  | publish {c : Consumer} (d : Delivery) :
    Step c { c with world := { c.world with bus := c.world.bus.publish d } }

/-! ### Running until nothing moves -/

/-- Handles one message to its end. -/
def handleOne (c : Consumer) (d : Delivery) : Consumer :=
  let (outcome, world) := (c.job d).rest.run c.world
  { c with world := world }.conclude d.key outcome

/-- A loop handles everything on its way to it, one message after the other. -/
def drainLoop (c : Consumer) (l : Loop) : Consumer :=
  let (ds, bus) := c.world.bus.drain l.subscription
  ds.foldl handleOne { c with world := { c.world with bus := bus } }

/-- All loops in turn handle what is on its way to them. -/
def settle (c : Consumer) : Consumer := c.loops.foldl drainLoop c

end Consumer

end SensorTasks.Inbox
