import SensorTasks.Instant.Document
import SensorTasks.Instant.Wire
import SensorTasks.Json.Codec

/-! Instants in documents and in messages as JSON strings. -/

namespace SensorTasks.Instant

open Json

def toJson (t : Instant) : Json := .string t.render

def decoder : Decoder Instant :=
  Decoder.parsed "an RFC 3339 formatted date and time string" fun s =>
    match Instant.parse s with
    | .ok t => .ok t
    | .error e => .error e.message

def toWireJson (t : Instant) : Json := .string t.toWire

def wireDecoder : Decoder Instant :=
  Decoder.parsed "a string" fun s =>
    match ofWire? s with
    | some t => .ok t
    | none => .error (wireError s)

instance : Codec Instant := ⟨decoder, toJson⟩

end SensorTasks.Instant
