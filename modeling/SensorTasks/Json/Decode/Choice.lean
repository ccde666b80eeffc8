import SensorTasks.Json.Decode.Record

/-!
Choices: one of several names, one of several shapes told apart by a tag, or the first of several
shapes that fits.
-/

namespace SensorTasks.Json

namespace Decoder

variable {α β : Type}

/-- The value of a name. -/
def named (variants : List (String × α)) (name : String) : Except DecodeError α :=
  match variants.lookup name with
  | some a => .ok a
  | none => .error (.unknownVariant name (variants.map (·.1)))

/-- What may stand beside the name of a variant without content. -/
def unit : Decoder Unit
  | _, .null => .ok ()
  | .buffered, .object [] => .ok ()
  | _, t => .error (mismatch "unit" t)

/-- One of several names, alone or as the only key of an object that holds nothing. -/
def choice (variants : List (String × α)) : Decoder α
  | _, .string s => named variants s
  | _, .skipOnly (.object _) => .error .malformed
  | origin, .object members =>
    match members with
    | [(name, t)] =>
      match named variants name with
      | .error e => .error e
      | .ok a => (unit origin t).map fun _ => a
    | (name, t) :: _ :: _ =>
      if origin = .text then
        match named variants name with
        | .error e => .error e
        | .ok _ =>
          match unit origin t with
          | .error e => .error e
          | .ok _ => .error .malformed
      else .error (.invalidValue .mapping "map with a single key")
    | [] =>
      if origin = .text then .error .malformed
      else .error (.invalidValue .mapping "map with a single key")
  | origin, t => .error (if origin = .text then .malformed else mismatch "string or map" t)

/-! ### Tags -/

/-- A tag: a name, or in a part that was set aside also the position of one. -/
def tag (variants : List (String × α)) : Decoder α
  | _, .string s => named variants s
  | .buffered, .number (.integer n) =>
    if n < 0 then .error (mismatch "variant identifier" (.number (.integer n)))
    else
      match variants[n.toNat]? with
      | some (_, a) => .ok a
      | none =>
        .error (.invalidValue (.number (.integer n))
          ("variant index 0 <= i < " ++ toString variants.length))
  | _, t => .error (mismatch "variant identifier" t)

/-- The tag among the members of an object, and the other members. -/
def findTag (key : String) (variants : List (String × α)) (origin : Origin) :
    Option α → List (String × Tree) → Except DecodeError (α × List (String × Tree))
  | none, [] => .error (.missingField key)
  | some a, [] => .ok (a, [])
  | chosen, (k, t) :: members =>
    if k = key then
      if chosen.isSome then .error (.duplicateField key)
      else
        match tag variants origin t with
        | .error e => .error e
        | .ok a => findTag key variants origin (some a) members
    else if t.read?.isSome then
      (findTag key variants origin chosen members).map fun (a, rest) => (a, (k, t) :: rest)
    else .error .malformed

/-- The members of an object decoded as the variant that the tag among them names. -/
def taggedMembers (key : String) (variants : List (String × Decoder α)) (origin : Origin)
    (members : List (String × Tree)) : Except DecodeError α :=
  match findTag key variants origin none members with
  | .error e => .error e
  | .ok (d, rest) => d .buffered (.object rest)

/-- An object with a tag among its members, or an array with the tag as its first item. -/
def tagged (key wanted : String) (variants : List (String × Decoder α)) : Decoder α
  | origin, .object members => taggedMembers key variants origin members
  | origin, .array (t :: items) =>
    match tag variants origin t with
    | .error e => .error e
    | .ok d =>
      if (Tree.readItems? items).isSome then d .buffered (.array items) else .error .malformed
  | _, .array [] => .error (.missingField key)
  | _, .skipOnly (.array _) => .error .malformed
  | _, .skipOnly (.object _) => .error .malformed
  | _, t => .error (mismatch wanted t)

/-- The variant without content: any object, or an empty array. -/
def noContent (a : α) : Decoder α
  | _, .array (t :: items) => .error (Fields.leftOver .buffered (t :: items).length 0)
  | _, _ => .ok a

/-- The first of the decoders that accepts a document that was set aside. -/
def firstOf (ds : List (Decoder α)) (t : Tree) : Option α :=
  ds.findSome? fun d => (d .buffered t).toOption

/-- The first of several shapes that fits. -/
def untagged (name : String) (ds : List (Decoder α)) : Decoder α
  | _, t =>
    if t.read?.isNone then .error .malformed
    else
      match firstOf ds t with
      | some a => .ok a
      | none => .error (.refused ("data did not match any variant of untagged enum " ++ name))

end Decoder

end SensorTasks.Json
