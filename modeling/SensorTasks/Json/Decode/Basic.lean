import SensorTasks.Json.Decode.Error

/-!
Decoders, and those of the simple types. A decoder is told where its document comes from: a value,
a text that is read on the way, or a part that was set aside before its type was known. Three
things hang on that: what stands in place of a choice, how a tag may be written, and what is said
of an array with items left over.
-/

namespace SensorTasks.Json

inductive Origin where
  | value
  | text
  | buffered
  deriving DecidableEq

abbrev Decoder (α : Type) := Origin → Tree → Except DecodeError α

namespace Decoder

/-- Decodes a value. -/
def fromValue {α : Type} (d : Decoder α) (j : Json) : Except DecodeError α :=
  d .value j.tree

def map {α β : Type} (f : α → β) (d : Decoder α) : Decoder β :=
  fun origin t => (d origin t).map f

def string : Decoder String
  | _, .string s => .ok s
  | _, t => .error (mismatch "a string" t)

def boolean : Decoder Bool
  | _, .bool b => .ok b
  | _, t => .error (mismatch "a boolean" t)

/-- A natural number below `2 ^ 64`. -/
def natural : Decoder Nat
  | _, .number (.integer n) =>
    if n < 0 then .error (.invalidValue (.number (.integer n)) "u64") else .ok n.toNat
  | _, t => .error (mismatch "u64" t)

/-- Any value. -/
def json : Decoder Json := fun _ t =>
  match t.read? with
  | some j => .ok j.canonical
  | none => .error .malformed

def attributes : Decoder Attributes
  | _, .object members =>
    match Tree.readMembers? members with
    | some ms => .ok (Attributes.ofMembers ms)
    | none => .error .malformed
  | _, .skipOnly _ => .error .malformed
  | _, t => .error (mismatch "a map" t)

/-- Nothing in place of `null`. -/
def option {α : Type} (d : Decoder α) : Decoder (Option α)
  | _, .null => .ok none
  | origin, t => (d origin t).map some

/-- The items in order; the first one that fails decides. -/
def items {α : Type} (d : Decoder α) (origin : Origin) : List Tree → Except DecodeError (List α)
  | [] => .ok []
  | t :: ts =>
    match d origin t with
    | .error e => .error e
    | .ok a => (items d origin ts).map (a :: ·)

def list {α : Type} (d : Decoder α) : Decoder (List α)
  | origin, .array ts => items d origin ts
  | _, .skipOnly _ => .error .malformed
  | _, t => .error (mismatch "a sequence" t)

/-- A text with a grammar of its own. -/
def parsed {α : Type} (wanted : String) (parse : String → Except String α) : Decoder α
  | _, .string s =>
    match parse s with
    | .ok a => .ok a
    | .error reason => .error (.refused reason)
  | _, t => .error (mismatch wanted t)

end Decoder

end SensorTasks.Json
