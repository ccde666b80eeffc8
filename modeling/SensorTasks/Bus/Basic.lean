import SensorTasks.Message.Routing
import SensorTasks.Json.Parser

/-!
The bus. The open subscriptions of a key take turns with the messages published on it, and a message
that nobody listens to is dropped. Each subscription has a queue of bounded length; what does not
fit waits in the background, in order, until there is room, so that a publisher never waits.
-/

namespace SensorTasks

open Json

/-- What a message carries: a document, or a text as it came. -/
inductive Payload where
  | document (j : Json)
  | text (s : String)

/-- The document of a payload, if it is JSON. -/
def Payload.read? : Payload → Option Json
  | .document j => some j
  | .text s => Json.parse? s

structure Delivery where
  payload : Payload
  id : String
  exchange : String
  key : RoutingKey
  timestamp : Instant

structure Subscription where
  key : RoutingKey
  number : Nat
  deriving DecidableEq

structure Subscriber where
  number : Nat
  queue : List Delivery
  /-- The background sends that wait for room in the queue. -/
  waiting : List Delivery
  isOpen : Bool

structure Bus where
  /-- The length of the queues. -/
  capacity : Nat
  capacity_pos : 0 < capacity
  subscribers : RoutingKey → List Subscriber
  /-- Counts the messages that somebody listened to, on all keys. -/
  turn : UInt64
  nextNumber : Nat

namespace Subscriber

def new (number : Nat) : Subscriber := ⟨number, [], [], true⟩

/-- Hands over a message: into the queue if there is room that nobody waits for. -/
def offer (capacity : Nat) (d : Delivery) (s : Subscriber) : Subscriber :=
  if s.queue.length + s.waiting.length < capacity then { s with queue := s.queue ++ [d] }
  else { s with waiting := s.waiting ++ [d] }

/-- The first of the background sends completes if there is room. -/
def arrive (capacity : Nat) (s : Subscriber) : Subscriber :=
  match s.waiting with
  | [] => s
  | d :: rest =>
    if s.queue.length < capacity then { s with queue := s.queue ++ [d], waiting := rest } else s

/-- All background sends complete for which there is room. -/
def settle (capacity : Nat) (s : Subscriber) : Subscriber :=
  let room := capacity - s.queue.length
  { s with queue := s.queue ++ s.waiting.take room, waiting := s.waiting.drop room }

/-- Nothing reaches a closed subscriber, and what it had is lost. -/
def close (s : Subscriber) : Subscriber :=
  { s with queue := [], waiting := [], isOpen := false }

end Subscriber

theorem zero_lt_max_one (n : Nat) : 0 < max n 1 := by omega

namespace Bus

def new (capacity : Nat) : Bus where
  capacity := max capacity 1
  capacity_pos := zero_lt_max_one capacity
  subscribers := fun _ => []
  turn := 0
  nextNumber := 0

/-- The bus with the subscribers of a key changed. -/
def mapSubscribers (b : Bus) (key : RoutingKey) (f : List Subscriber → List Subscriber) : Bus :=
  { b with
    subscribers := fun k => if k = key then f (b.subscribers k) else b.subscribers k }

def live (b : Bus) (key : RoutingKey) : List Subscriber :=
  (b.subscribers key).filter (·.isOpen)

/-- The number of open subscriptions of a key. -/
def count (b : Bus) (key : RoutingKey) : Nat := (b.live key).length

def subscribe (b : Bus) (key : RoutingKey) : Subscription × Bus :=
  (⟨key, b.nextNumber⟩,
    { b.mapSubscribers key (· ++ [Subscriber.new b.nextNumber]) with
      nextNumber := b.nextNumber + 1 })

def publish (b : Bus) (d : Delivery) : Bus :=
  match b.live d.key with
  | [] => b.mapSubscribers d.key fun _ => []
  | s :: rest =>
    let chosen := b.turn.toNat % (s :: rest).length
    { b.mapSubscribers d.key fun _ => (s :: rest).modify chosen (·.offer b.capacity d) with
      turn := b.turn + 1 }

/-- The bus with one subscriber changed. -/
def mapSubscriber (b : Bus) (s : Subscription) (f : Subscriber → Subscriber) : Bus :=
  b.mapSubscribers s.key (List.map fun t => if t.number = s.number then f t else t)

def subscriber? (b : Bus) (s : Subscription) : Option Subscriber :=
  (b.subscribers s.key).find? fun t => t.number = s.number

/-- Takes the first message of a queue. -/
def receive (b : Bus) (s : Subscription) : Option (Delivery × Bus) :=
  match b.subscriber? s with
  | none => none
  | some t =>
    match t.queue with
    | [] => none
    | d :: rest => some (d, b.mapSubscriber s fun t => { t with queue := rest })

def arrive (b : Bus) (s : Subscription) : Bus :=
  b.mapSubscriber s (·.arrive b.capacity)

/-- The background sends of all subscriptions complete as far as there is room. -/
def settle (b : Bus) : Bus :=
  { b with subscribers := fun k => (b.subscribers k).map (·.settle b.capacity) }

def close (b : Bus) (s : Subscription) : Bus :=
  b.mapSubscriber s Subscriber.close

/-- How many messages are on their way to a subscription. -/
def pending (b : Bus) (s : Subscription) : Nat :=
  match b.subscriber? s with
  | none => 0
  | some t => t.queue.length + t.waiting.length

/-- Takes all messages on their way to a subscription, in order. -/
def drain (b : Bus) (s : Subscription) : List Delivery × Bus :=
  match b.subscriber? s with
  | none => ([], b)
  | some t =>
    (t.queue ++ t.waiting, b.mapSubscriber s fun t => { t with queue := [], waiting := [] })

/-- A bus inside the process works as long as the process does. -/
def isHealthy (_ : Bus) : Bool := true

end Bus

end SensorTasks
