import Pasteboard.Api.Admin
import Pasteboard.Api.BasePath
/-!
Routing: from a request to its answer.

A path is compared as it stands, below the base path. An unknown path is answered before the gate, a
method that a path does not have behind it. The gate goes by the path that the request is told,
which can differ from that of the route. Only the health of the service is told without the gate.
-/

namespace Pasteboard.Api

open Pasteboard.Http

/-- The paths of the service. -/
inductive Route
  | root
  | search
  | restore
  | health
  | auth
  | allSlots
  | keys
  | rules
  deriving DecidableEq, Repr

namespace Route

/-- All routes. -/
def all : List Route :=
  [.root, .search, .restore, .health, .auth, .allSlots, .keys, .rules]

/-- The path of a route below the base path. -/
def path : Route → String
  | .root => "/"
  | .search => "/search"
  | .restore => "/restore"
  | .health => "/health"
  | .auth => "/admin/auth"
  | .allSlots => "/admin/slots"
  | .keys => "/admin/keys"
  | .rules => "/admin/ip"

/-- The route of a path. -/
def ofPath? (path : String) : Option Route :=
  all.find? (·.path == path)

/-- Whether a route is for administration. -/
def isAdmin : Route → Bool
  | .auth => true
  | .allSlots => true
  | .keys => true
  | .rules => true
  | _ => false

end Route

/-- What a method does at a route, for a visitor. The answer to `HEAD` is that to `GET`. -/
def handler? (s : Settings) (route : Route) (r : Request) (visitor : Gate.Visitor) :
    Option (Handler Response) :=
  let params := r.target.params
  let actor := actorOf visitor
  let method := if r.method == "HEAD" then "GET" else r.method
  match route, method with
  | .root, "GET" => some (getSlot params)
  | .root, "POST" => some (postSlot s r params)
  | .root, "PUT" => some (putSlot s r params actor)
  | .root, "PATCH" => some (patchSlot s r params actor)
  | .root, "DELETE" => some (deleteSlot params)
  | .search, "GET" => some (search s params)
  | .search, "POST" => some (searchByBody s r params)
  | .restore, "POST" => some (restoreSlot s params actor)
  | .health, "GET" => some (health s r.uptime)
  | .auth, "GET" => some overview
  | .allSlots, "GET" => some (listSlots s params)
  | .keys, "POST" => some (createKey s r)
  | .keys, "PATCH" => some (updateKey s r params)
  | .keys, "DELETE" => some (deleteKey params)
  | .rules, "POST" => some (addRule s r)
  | .rules, "DELETE" => some (removeRule params)
  | _, _ => none

/-- The answer when the stored keys and rules cannot be read. -/
def gateFailure (_ : StoreError) : Response :=
  failure .database "Database unavailable"

/-- The gate: the visitor behind a request, or the answer that turns it away. -/
def admitted (s : Settings) (r : Request) : Handler Gate.Visitor := do
  match ← act (Gate.evaluate s (Gate.Caller.of s r)) gateFailure with
  | .pass visitor => return visitor
  | .deny denial => throw (denied denial)

/-- The second gate, in front of administration. -/
def checkAdmin (r : Request) : Handler Unit := do
  match ← act (Gate.evaluateAdmin (Gate.presentedKey r.headers r.target)) gateFailure with
  | none => return
  | some denial => throw (denied denial)

/-- The visitor whom a route lets in. -/
def entered (s : Settings) (route : Route) (r : Request) : Handler Gate.Visitor := do
  if route = .health then return ⟨"", none⟩
  let visitor ← admitted s r
  if route.isAdmin then checkAdmin r
  return visitor

/-- Answers a request at a route. -/
def atRoute (s : Settings) (route : Route) (r : Request) : Handler Response := do
  let visitor ← entered s route r
  match handler? s route r visitor with
  | some h => h
  | none => return .bare 405

/-- Whether the answer goes without its body: it answers `HEAD` where there is an answer to
`GET`. -/
def isHeadOnly (s : Settings) (route : Route) (r : Request) : Bool :=
  r.method == "HEAD" && (handler? s route r ⟨"", none⟩).isSome

/-- Answers a request. -/
def answer (s : Settings) (r : Request) : StateM Board Response := do
  match (BasePath.below? s.basePath r.target.path).bind Route.ofPath? with
  | none => return .bare 404
  | some route =>
    let path := BasePath.stripped s.basePath r.target.path
    let r := { r with target := { r.target with path } }
    let response ← (atRoute s route r).answer
    return if isHeadOnly s route r then response.withoutBody else response

end Pasteboard.Api
