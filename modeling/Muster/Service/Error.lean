import Muster.Edit

/-!
# What the service refuses
-/

namespace Muster

/-- What is wrong with a request. -/
inductive BadRequest where
  /-- the body is not the JSON that the request needs -/
  | unreadable
  | unknownRole (text : String)
  | unreadableItem (e : OfferError)
  | noChoice
  | noSize
deriving DecidableEq, Repr

/-- The text of an error. -/
def BadRequest.message : BadRequest → String
  | unreadable => "not the expected JSON"
  | unknownRole text => Role.unknownMessage text
  | unreadableItem e => e.message
  | noChoice => "one of index, letter, item or indices is required"
  | noSize => "size or counts is required"

/-- Why a request fails. -/
inductive ServiceError where
  | badRequest (e : BadRequest)
  | noSession (id : String)
  /-- an earlier request has aborted on the edit -/
  | broken
  | edit (e : EditError)
  | noRoute (method path : String)
deriving DecidableEq, Repr

/-- A status line. -/
structure Status where
  code : Nat
  reason : String
deriving DecidableEq, Repr

namespace Status

def ok : Status := ⟨200, "OK"⟩
def created : Status := ⟨201, "Created"⟩
def badRequest : Status := ⟨400, "Bad Request"⟩
def notFound : Status := ⟨404, "Not Found"⟩
def conflict : Status := ⟨409, "Conflict"⟩
def unprocessable : Status := ⟨422, "Unprocessable Entity"⟩
def serverError : Status := ⟨500, "Internal Server Error"⟩

end Status

/-- A template that is missing is not found, a codex that cannot be read is the server's fault, and
what a squad refuses cannot be processed. -/
def SquadError.status : SquadError → Status
  | .codex e => if e.isMissing then .notFound else .serverError
  | .offer .. => .serverError
  | _ => .unprocessable

namespace ServiceError

/-- The text of an error. -/
def message : ServiceError → String
  | badRequest e => "invalid request body: " ++ e.message
  | noSession id => "no unit session '" ++ id ++ "'"
  | broken => "session state is unavailable after a failed request"
  | edit e => e.message
  | noRoute method path => "no route for " ++ method ++ " " ++ path

/-- The status that a request fails with. -/
def status : ServiceError → Status
  | badRequest _ => .badRequest
  | noSession _ | noRoute .. => .notFound
  | broken => .serverError
  | edit (.outOfTurn ..) => .conflict
  | edit (.squad e) => e.status

/-- Whether the request was aborted rather than refused. -/
def aborts : ServiceError → Bool
  | edit (.squad e) => e.aborts
  | _ => false

end ServiceError

end Muster
