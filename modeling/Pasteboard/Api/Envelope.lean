import Pasteboard.Access.Gate
/-!
The envelopes of answers.

An answer is an object with the data and no error, or with an error that has a code, a message and
sometimes details. The code of an error decides the status.
-/

namespace Pasteboard.Api

open Pasteboard.Http

/-! ### Errors -/

/-- The codes of errors. -/
inductive ErrorCode
  | validation
  | size
  | mime
  | notFound
  | conflict
  | noApiKey
  | invalidApiKey
  | forbidden
  | ipDenied
  | query
  | searchUnavailable
  | database
  | internal
  deriving DecidableEq, Repr

namespace ErrorCode

/-- All codes. -/
def all : List ErrorCode :=
  [.validation, .size, .mime, .notFound, .conflict, .noApiKey, .invalidApiKey, .forbidden,
    .ipDenied, .query, .searchUnavailable, .database, .internal]

/-- The text of a code. -/
def name : ErrorCode → String
  | .validation => "E_VALIDATION"
  | .size => "E_SIZE"
  | .mime => "E_MIME"
  | .notFound => "E_NOT_FOUND"
  | .conflict => "E_CONFLICT"
  | .noApiKey => "E_NO_API_KEY"
  | .invalidApiKey => "E_INVALID_API_KEY"
  | .forbidden => "E_FORBIDDEN"
  | .ipDenied => "E_IP_DENY"
  | .query => "E_QUERY"
  | .searchUnavailable => "E_FTS_UNAVAILABLE"
  | .database => "E_DB"
  | .internal => "E_INTERNAL"

/-- The status of a code. -/
def status : ErrorCode → Nat
  | .validation => 400
  | .size => 413
  | .mime => 415
  | .notFound => 404
  | .conflict => 409
  | .noApiKey => 401
  | .invalidApiKey => 401
  | .forbidden => 403
  | .ipDenied => 403
  | .query => 400
  | .searchUnavailable => 503
  | .database => 500
  | .internal => 500

/-- The kind of failure that a code stands for. -/
def kind : ErrorCode → String
  | .validation => "validation"
  | .size => "size-exceeded"
  | .mime => "validation"
  | .notFound => "not-found"
  | .conflict => "conflict"
  | .noApiKey => "unauthorized"
  | .invalidApiKey => "unauthorized"
  | .forbidden => "forbidden"
  | .ipDenied => "forbidden"
  | .query => "query-invalid"
  | .searchUnavailable => "search-unavailable"
  | .database => "internal"
  | .internal => "internal"

/-- The code with a text. -/
def named? (s : String) : Option ErrorCode :=
  all.find? (·.name == s)

end ErrorCode

/-- An answer with an error. -/
def failure (code : ErrorCode) (message : String) (details : Option Json := none) : Response :=
  let detail := match details with
    | some v => [("details", v)]
    | none => []
  .ofJson code.status
    (.obj [("error", .obj ([("code", .str code.name), ("message", .str message)] ++ detail))])

/-- A value that is refused. -/
def invalid (message : String) : Response :=
  failure .validation message

/-- Something that is not there. -/
def missing (message : String) : Response :=
  failure .notFound message

/-- A query that is refused, with the reason if there is one. -/
def badQuery (message : String) (reason : Option String) : Response :=
  failure .query message (reason.map fun r => .obj [("reason", .str r)])

/-- A failure that is nobody's fault. -/
def internalFailure (message : String) : Response :=
  failure .internal message

/-! ### Success -/

/-- An answer with data, and with what is to be said about the data. -/
def success (status : Nat) (data : Json) (meta? : Option Json := none) : Response :=
  let about := match meta? with
    | some v => [("meta", v)]
    | none => []
  .ofJson status (.obj ([("data", data)] ++ about ++ [("error", .null)]))

/-- An answer with data. -/
def ok (data : Json) : Response :=
  success 200 data

/-- The answer that names a new slot. -/
def created (id : Int) : Response :=
  .ofJson 201 (.obj [("id", .int id), ("error", .null)])

/-! ### Failures of the store and of the gate -/

/-- The answer for a failure of the store. -/
def storeFailure : StoreError → Response
  | .notFound => missing "Not found"
  | .conflict c => failure .conflict c.message
  | .refused r => failure .validation r.message (some (.obj [("field", .str r.field)]))
  | .badQuery reason => badQuery "Invalid search query" (some reason)
  | .searchUnavailable => failure .searchUnavailable "Full-text search unavailable"
  | .cannotOpen _ => failure .database "Database unavailable"
  | .database _ => internalFailure "Internal error"

/-- The answer to a request that the gate turns away. -/
def denied : Gate.Denial → Response
  | .address ip =>
    failure .ipDenied "Access denied by IP policy"
      (some (.obj [("ip", .str ip), ("reason", .str "Matched deny list")]))
  | .noKey required =>
    failure .noApiKey "API key required"
      (some (.obj [("hint", .str "Provide API key via X-API-Key header or ?api_key= query."),
        ("required", .str required.name)]))
  | .unknownKey =>
    failure .invalidApiKey "Invalid API key"
      (some (.obj [("hint", .str "Key not found or disabled")]))
  | .weakRole role required =>
    failure .forbidden "Insufficient role"
      (some (.obj [("role", .str role), ("required", .str required.asked)]))
  | .notAdmin => failure .forbidden "Insufficient role (admin required)"

/-! ### Handlers -/

/-- What answers a request: it works on the board and ends with an answer, early with a refusal. -/
abbrev Handler := ExceptT Response (StateM Board)

/-- A result that is already known. -/
def Handler.of {α : Type} (result : Except Response α) : Handler α :=
  ExceptT.mk (pure result)

/-- An operation on the board, with the answers for its failures. -/
def act {α : Type} (a : Action α) (onFailure : StoreError → Response := storeFailure) : Handler α :=
  ExceptT.adapt onFailure a

/-- The answer of a handler, early or not. -/
def Handler.answer (h : Handler Response) : StateM Board Response := do
  match ← h.run with
  | .ok r => return r
  | .error r => return r

end Pasteboard.Api
