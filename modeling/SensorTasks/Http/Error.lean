import SensorTasks.Lifecycle.Scheduling
import SensorTasks.Lifecycle.Visibility

/-!
What a client is told when a request fails. The causes inside are sorted by what the client can do
about them; what it can do nothing about is an internal error.
-/

namespace SensorTasks.Http

open Message

inductive ApiError where
  | invalidPayload (reason : String)
  | missingUser
  | notFound (reason : String)
  | conflict (reason : String)
  | unprocessable (reason : String)
  | internal (reason : String)
  deriving DecidableEq

namespace ApiError

def status : ApiError → Nat
  | invalidPayload _ => 400
  | missingUser => 401
  | notFound _ => 404
  | conflict _ => 409
  | unprocessable _ => 422
  | internal _ => 500

def code : ApiError → String
  | invalidPayload _ => "INVALID_PAYLOAD"
  | missingUser => "MISSING_USER"
  | notFound _ => "NOT_FOUND"
  | conflict _ => "CONFLICT"
  | unprocessable _ => "UNPROCESSABLE"
  | internal _ => "INTERNAL_ERROR"

def message : ApiError → String
  | invalidPayload reason => "payload invalid: " ++ reason
  | missingUser => "X-User-Id header is required"
  | notFound reason => reason
  | conflict reason => reason
  | unprocessable reason => reason
  | internal reason => "internal error: " ++ reason

def toJson (e : ApiError) : Json :=
  .ofMembers [("code", .string e.code), ("message", .string e.message)]

def ofTaskError (e : TaskError) : ApiError :=
  match e with
  | .duplicateName _ => conflict e.message
  | .notFound .. => notFound e.message
  | .invalidRequest _ | .invalidSchedule _ => invalidPayload e.message
  | .unusableFile .. => unprocessable e.message
  | .mapping _ | .ledger _ | .messaging _ => internal e.message

def ofFileError (e : FileError) : ApiError :=
  match e with
  | .notFound _ => notFound e.message
  | .stateChanging _ => conflict e.message
  | .emptyRequest => invalidPayload e.message
  | .ledger _ | .messaging _ => internal e.message

/-- For a user that is announced: a message that is refused is the fault of the request. -/
def ofMessagingError (e : MessagingError) : ApiError :=
  match e with
  | .schema _ => invalidPayload e.message
  | .unknownKey _ | .missingSchema _ => internal e.message

end ApiError

end SensorTasks.Http
