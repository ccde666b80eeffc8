import SensorTasks.Text.Blank

/-!
Content types: a type, a subtype that may have a suffix, and parameters. The parameters do not
matter here, but they have to be there as the grammar wants them.
-/

namespace SensorTasks.Http.ContentType

/-- The characters of names and plain values. -/
def isToken (c : Char) : Bool :=
  c.isAlphanum || "!#$%&'*+-.^_\x60|~".toList.contains c

def isQuotable (c : Char) : Bool := 31 < c.toNat && c.toNat < 127

/-- What follows a quoted value: blanks up to the next parameter, whose start is given. -/
def afterQuote : List Char → Option (List Char)
  | [] => some []
  | ';' :: rest => some rest
  | ' ' :: rest => afterQuote rest
  | _ => none

/-- A quoted value has one character at least, and ends at the next quote after that. -/
def quotedValue : List Char → Option (List Char)
  | [] => none
  | c :: cs =>
    match Text.cut (· == '"') cs with
    | some (more, rest) => if (c :: more).all isQuotable then afterQuote rest else none
    | none => none

/-- A plain value ends at the next parameter or the end of the text; only there it may be empty. -/
def plainValue (cs : List Char) : Option (List Char) :=
  let value := cs.takeWhile isToken
  match cs.drop value.length with
  | [] => some []
  | ';' :: rest => if value.isEmpty then none else some rest
  | _ => none

/-- One parameter, up to the start of the next one. -/
def parameter (cs : List Char) : Option (List Char) :=
  let name := cs.takeWhile isToken
  match cs.drop name.length with
  | '=' :: '"' :: rest => if name.isEmpty then none else quotedValue rest
  | '=' :: rest => if name.isEmpty then none else plainValue rest
  | _ => none

/-- Nothing but parameters, with blanks before them. -/
def areParameters (fuel : Nat) (cs : List Char) : Bool :=
  match fuel with
  | 0 => false
  | fuel + 1 =>
    match cs.dropWhile (· == ' ') with
    | [] => true
    | cs =>
      match parameter cs with
      | some rest => areParameters fuel rest
      | none => false

/-- The text after the last plus sign that is not at the start, and the text before it. -/
def splitSuffix (subtype : List Char) : List Char × Option (List Char) :=
  match Text.cut (· == '+') subtype.reverse with
  | some (suffix, before) =>
    if before.isEmpty then (subtype, none) else (before.reverse, some suffix.reverse)
  | none => (subtype, none)

def lower (cs : List Char) : String := String.ofList (cs.map Char.toLower)

/-- A type for JSON: `application/json`, or one that is built on it. -/
def isJson (text : String) : Bool :=
  let cs := text.toList
  let type := cs.takeWhile isToken
  match cs.drop type.length with
  | '/' :: rest =>
    let subtype := rest.takeWhile isToken
    let after := rest.drop subtype.length
    let sound := match after with
      | [] => true
      | c :: params => (c == ';' || c == ' ') && areParameters (params.length + 1) params
    let (name, suffix) := splitSuffix subtype
    sound && !subtype.isEmpty && lower type == "application" &&
      (lower name == "json" || suffix.any fun s => lower s == "json")
  | _ => false

end SensorTasks.Http.ContentType
