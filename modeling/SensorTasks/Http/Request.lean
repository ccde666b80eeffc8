import SensorTasks.Http.Error
import SensorTasks.Http.ContentType
import SensorTasks.Text.Percent

/-!
Requests and responses, and what is read from a request: the user, the path, the query and the
body.
-/

namespace SensorTasks.Http

open Json

structure Request where
  method : String
  /-- The path, and the query after a question mark. -/
  target : String
  /-- The value of the header that names the user. -/
  user : Option String
  contentType : Option String
  body : String

structure Response where
  status : Nat
  body : Option Payload

namespace Response

def empty (status : Nat) : Response := ⟨status, none⟩

def json (status : Nat) (j : Json) : Response := ⟨status, some (.document j)⟩

def ofError (e : ApiError) : Response := json e.status e.toJson

end Response

namespace Request

/-- The target without its fragment. -/
def resource (r : Request) : List Char := r.target.toList.takeWhile (· != '#')

def path (r : Request) : List Char := r.resource.takeWhile (· != '?')

/-- What follows the question mark. -/
def query (r : Request) : List Char := (r.resource.drop r.path.length).drop 1

/-- The user that the request comes from: visible ASCII, without blanks at the ends. -/
def userId? (r : Request) : Option UserId :=
  match r.user with
  | none => none
  | some value =>
    let visible := value.toList.all fun c => (32 ≤ c.toNat && c.toNat < 127) || c == '\t'
    if visible && !Text.isBlankText value then some (Text.trim value) else none

def notJson : String := "Expected request with \x60Content-Type: application/json\x60"

def tooLong : String := "Failed to buffer the request body: length limit exceeded"

def badSyntax : String := "Failed to parse the request body as JSON"

def badType : String := "Failed to deserialize the JSON body into the target type"

def badQuery : String := "Failed to deserialize query string"

/-- The document in the body of a request, which may have `limit` bytes. -/
def decodeBody {α : Type} (r : Request) (limit : Nat) (d : Decoder α) : Except ApiError α :=
  if !r.contentType.any ContentType.isJson then .error (.invalidPayload notJson)
  else if r.body.utf8ByteSize > limit then .error (.invalidPayload tooLong)
  else
    let doc := Document.ofText r.body
    match d .text doc.root with
    | .error .malformed => .error (.invalidPayload badSyntax)
    | .error _ => .error (.invalidPayload badType)
    | .ok a => if doc.complete then .ok a else .error (.invalidPayload badSyntax)

end Request

end SensorTasks.Http
