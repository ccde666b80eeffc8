import SensorTasks.Json.Printer
import SensorTasks.Json.Tree

/-!
Why a document is not what was asked for. The causes are kept apart from their wording, which
`DecodeError.message` gives.
-/

namespace SensorTasks.Json

/-- What stood in the document instead. -/
inductive Found where
  | null
  | boolean (b : Bool)
  | number (n : Number)
  | text (s : String)
  | sequence
  | mapping
  deriving DecidableEq

def Found.describe : Found → String
  | .null => "null"
  | .boolean b => "boolean \x60" ++ toString b ++ "\x60"
  | .number (.integer n) => "integer \x60" ++ toString n ++ "\x60"
  | .number (.real x) => "floating point \x60" ++ x.render Double.jsonStyle ++ "\x60"
  | .text s => "string " ++ Text.quote s
  | .sequence => "sequence"
  | .mapping => "map"

inductive DecodeError where
  /-- The text is not JSON. -/
  | malformed
  | invalidType (found : Found) (wanted : String)
  | invalidValue (found : Found) (wanted : String)
  | invalidLength (length : Nat) (wanted : String)
  | unknownVariant (name : String) (known : List String)
  | missingField (name : String)
  | duplicateField (name : String)
  /-- A text of the right type that is not in its grammar. -/
  | refused (reason : String)
  deriving DecidableEq

/-- A name as messages show it. -/
def marked (name : String) : String :=
  "\x60" ++ name ++ "\x60"

def oneOf : List String → String
  | [] => "there are no variants"
  | [a] => "expected " ++ marked a
  | [a, b] => "expected " ++ marked a ++ " or " ++ marked b
  | known => "expected one of " ++ ", ".intercalate (known.map marked)

def DecodeError.message : DecodeError → String
  | .malformed => "malformed JSON"
  | .invalidType found wanted => "invalid type: " ++ found.describe ++ ", expected " ++ wanted
  | .invalidValue found wanted => "invalid value: " ++ found.describe ++ ", expected " ++ wanted
  | .invalidLength n wanted => "invalid length " ++ toString n ++ ", expected " ++ wanted
  | .unknownVariant name known => "unknown variant " ++ marked name ++ ", " ++ oneOf known
  | .missingField name => "missing field " ++ marked name
  | .duplicateField name => "duplicate field " ++ marked name
  | .refused reason => reason

/-- What a reader sees of a document before it looks inside; nothing in place of a fault. -/
def Tree.found? : Tree → Option Found
  | .null => some .null
  | .bool b => some (.boolean b)
  | .number n => some (.number n)
  | .string s => some (.text s)
  | .array _ => some .sequence
  | .object _ => some .mapping
  | .skipOnly (.array _) => some .sequence
  | .skipOnly (.object _) => some .mapping
  | _ => none

/-- The error for a document that is not of the wanted type. -/
def mismatch (wanted : String) (t : Tree) : DecodeError :=
  match t.found? with
  | some found => .invalidType found wanted
  | none => .malformed

end SensorTasks.Json
