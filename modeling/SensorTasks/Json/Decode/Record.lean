import SensorTasks.Json.Decode.Basic

/-!
Records: objects with known fields, which may also be written as arrays of the field values in the
order of the declaration. A record type declares its fields once, with `<*>`, and gets both forms.

In an object unknown fields are passed over. The first field in the order of the document that is
repeated or does not decode gives the error; only then the first field in the order of the
declaration that is missing.
-/

namespace SensorTasks.Json

/-- What stands in an array in place of a field: too few items, or one that does not decode. -/
inductive ItemError where
  | short
  | failed (e : DecodeError)

/-- The declared fields of a value of type `α`. -/
structure Fields (α : Type) where
  /-- The names of every field, the one that errors show first. -/
  names : List (List String)
  /-- The fields that are there and do not decode, and the value or the first error. -/
  ofMembers : Origin → List (String × Tree) → List (String × DecodeError) × Except DecodeError α
  ofItems : Origin → List Tree → Except ItemError (α × List Tree)

namespace Fields

variable {α β : Type}

/-- The first member whose key is one of `names`. -/
def lookup (names : List String) (members : List (String × Tree)) : Option Tree :=
  (members.find? fun m => names.contains m.1).map (·.2)

/-- A field. `absent` is its value where an object does not have it, `absentItem` where an array
ends before it. -/
def field (names : List String) (d : Decoder α) (absent absentItem : Option α) : Fields α where
  names := [names]
  ofMembers origin members :=
    let name := names.headD ""
    match lookup names members with
    | some t =>
      match d origin t with
      | .ok a => ([], .ok a)
      | .error e => ([(name, e)], .error e)
    | none =>
      match absent with
      | some a => ([], .ok a)
      | none => ([], .error (.missingField name))
  ofItems origin items :=
    match items with
    | t :: rest =>
      match d origin t with
      | .ok a => .ok (a, rest)
      | .error e => .error (.failed e)
    | [] =>
      match absentItem with
      | some a => .ok (a, [])
      | none => .error .short

def required (name : String) (d : Decoder α) : Fields α :=
  field [name] d none none

/-- A field that is required and has a second name. -/
def requiredAs (name other : String) (d : Decoder α) : Fields α :=
  field [name, other] d none none

def withDefault (name : String) (d : Decoder α) (a : α) : Fields α :=
  field [name] d (some a) (some a)

def optional (name : String) (d : Decoder α) : Fields (Option α) :=
  withDefault name d.option none

/-- An optional field that an array may not leave out. -/
def optionalMember (name : String) (d : Decoder α) : Fields (Option α) :=
  field [name] d.option (some none) none

instance : Functor Fields where
  map f x :=
    { names := x.names
      ofMembers := fun origin ms => let (failed, r) := x.ofMembers origin ms; (failed, r.map f)
      ofItems := fun origin ts => (x.ofItems origin ts).map fun (a, rest) => (f a, rest) }

instance : Pure Fields where
  pure a :=
    { names := []
      ofMembers := fun _ _ => ([], .ok a)
      ofItems := fun _ ts => .ok (a, ts) }

instance : Seq Fields where
  seq f x :=
    { names := f.names ++ (x ()).names
      ofMembers := fun origin ms =>
        let (failed, r) := f.ofMembers origin ms
        let (failed', s) := (x ()).ofMembers origin ms
        (failed ++ failed',
          match r with
          | .ok g => s.map g
          | .error e => .error e)
      ofItems := fun origin ts =>
        match f.ofItems origin ts with
        | .ok (g, rest) => ((x ()).ofItems origin rest).map fun (a, rest) => (g a, rest)
        | .error e => .error e }

/-- The first fault of an object in the order of its members; `passes` says which unknown members
may be there. -/
def firstFault (names : List (List String)) (failed : List (String × DecodeError))
    (passes : Tree → Bool) (seen : List String) : List (String × Tree) → Option DecodeError
  | [] => none
  | (key, t) :: members =>
    match names.find? (·.contains key) with
    | some group =>
      let name := group.headD ""
      if seen.contains name then some (.duplicateField name)
      else
        match failed.lookup name with
        | some e => some e
        | none => firstFault names failed passes (name :: seen) members
    | none => if passes t then firstFault names failed passes seen members else some .malformed

def decodeMembers (fs : Fields α) (passes : Tree → Bool) (origin : Origin)
    (members : List (String × Tree)) : Except DecodeError α :=
  let (failed, r) := fs.ofMembers origin members
  match firstFault fs.names failed passes [] members with
  | some e => .error e
  | none => r

def elements (n : Nat) : String :=
  if n == 1 then "1 element" else toString n ++ " elements"

/-- The error for an array of `length` items of which `used` were used. -/
def leftOver (origin : Origin) (length used : Nat) : DecodeError :=
  match origin with
  | .value => .invalidLength length "fewer elements in array"
  | .text => .malformed
  | .buffered => .invalidLength length (elements used ++ " in sequence")

def decodeItems (fs : Fields α) (wanted : String) (origin : Origin) (items : List Tree) :
    Except DecodeError α :=
  match fs.ofItems origin items with
  | .error (.failed e) => .error e
  | .error .short =>
    .error (.invalidLength items.length (wanted ++ " with " ++ elements fs.names.length))
  | .ok (a, []) => .ok a
  | .ok (_, rest) => .error (leftOver origin items.length (items.length - rest.length))

/-- The decoder of a record in both forms. -/
def decode (wanted : String) (fs : Fields α) : Decoder α
  | origin, .object members => fs.decodeMembers Tree.isWhole origin members
  | origin, .array items => fs.decodeItems wanted origin items
  | _, .skipOnly _ => .error .malformed
  | _, t => .error (mismatch wanted t)

/-- The members of an object that are none of the fields. -/
def others (fs : Fields α) (members : List (String × Tree)) : List (String × Tree) :=
  members.filter fun m => !fs.names.any (·.contains m.1)

/-- The decoder of an object whose remaining members, which are set aside first, are decoded
together by `rest`. -/
def decodeWith (wanted : String) (fs : Fields (β → α))
    (rest : List (String × Tree) → Except DecodeError β) : Decoder α
  | origin, .object members =>
    match fs.decodeMembers (fun t => t.read?.isSome) origin members with
    | .error e => .error e
    | .ok f => (rest (fs.others members)).map f
  | _, .skipOnly (.object _) => .error .malformed
  | _, t => .error (mismatch wanted t)

end Fields

end SensorTasks.Json
