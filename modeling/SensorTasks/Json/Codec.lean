import SensorTasks.Json.Decode.Basic
import SensorTasks.Json.Encode

/-! Types that are documents: how a value is read, and how it is written. -/

namespace SensorTasks.Json

class Codec (α : Type) where
  decoder : Decoder α
  encode : α → Json

instance : Codec Json := ⟨.json, id⟩

instance : Codec String := ⟨.string, .string⟩

instance : Codec Attributes := ⟨.attributes, Attributes.toJson⟩

end SensorTasks.Json
