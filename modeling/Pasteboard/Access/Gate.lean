import Pasteboard.Board.Access
import Pasteboard.Http.Message
import Pasteboard.Net.Client
import Pasteboard.Settings
/-!
The gate in front of the service.

Who may pass is decided by the client's address and by the key that a request presents. The checks
are made in a fixed order, and the first one that decides ends them. A request that passes by a key
is noted on the key.
-/

namespace Pasteboard

open Pasteboard.Http

namespace Gate

/-! ### Requirements -/

/-- Requests that read: the safe methods, and searches. -/
def isRead (method path : String) : Bool :=
  method == "GET" || method == "HEAD" || method == "OPTIONS" ||
    (method == "POST" && path == "/search")

/-- The role that a request requires. -/
def required (method path : String) : Role :=
  if Text.startsWith path "/admin/" || path == "/admin" then .admin
  else if isRead method path then .read
  else .write

/-- The key in the query of a target. A query with several keys presents none. -/
def queryKey? (t : Target) : Option String :=
  match t.pairs.filter (·.1 == "api_key") with
  | [(_, value)] => Text.trimmed? value
  | _ => none

/-- The key that a request presents: in its header line, else in its query. -/
def presentedKey (headers : List Header) (t : Target) : Option String :=
  (headerWord? headers "x-api-key").or (queryKey? t)

/-! ### Decisions -/

/-- Who is behind an admitted request. -/
structure Visitor where
  clientIp : String
  keyId : Option Int
  deriving DecidableEq, Repr

/-- Why a request is turned away. -/
inductive Denial
  | address (ip : String)
  | noKey (required : Role)
  | unknownKey
  | weakRole (role : String) (required : Role)
  | notAdmin
  deriving DecidableEq, Repr

/-- What becomes of a request. -/
inductive Decision
  | pass (visitor : Visitor)
  | deny (denial : Denial)
  deriving DecidableEq, Repr

/-- What the gate looks at. -/
structure Caller where
  method : String
  path : String
  key : Option String
  clientIp : String
  deriving DecidableEq, Repr

/-- What the gate looks at in a request. -/
def Caller.of (s : Settings) (r : Request) : Caller where
  method := r.method
  path := r.target.path
  key := presentedKey r.headers r.target
  clientIp := Net.resolveClient (Net.peerText r.peer) r.headers s.trustProxy s.trustedProxies

/-- The decision by the key that a caller presents, once there are keys. -/
def decideByKey (c : Caller) : Action Decision := do
  let required := required c.method c.path
  match c.key with
  | none => return .deny (.noKey required)
  | some secret =>
    match ← Board.findKey secret with
    | none => return .deny .unknownKey
    | some key =>
      if required.metBy (Role.named? key.role) then
        Board.touchKey key.id c.clientIp
        return .pass ⟨c.clientIp, some key.id⟩
      else return .deny (.weakRole key.role required)

/-- Decides on a request. Without authentication everyone passes; so does a reader on this machine
where that is allowed. A denied address goes before an allowed one, and both before keys, which
matter only once there are any. -/
def evaluate (s : Settings) (c : Caller) : Action Decision := do
  let passed := Decision.pass ⟨c.clientIp, none⟩
  if s.noAuth then return passed
  if s.allowLocalhost && isRead c.method c.path && Net.isLoopback c.clientIp then return passed
  if Net.matchesAny (← Board.enabledCidrs .deny) c.clientIp then
    return .deny (.address c.clientIp)
  if Net.matchesAny (← Board.enabledCidrs .allow) c.clientIp then return passed
  if (← Board.countKeys) = 0 then return passed
  decideByKey c

/-- Decides on a request for administration that has passed the gate: a key that is presented must
be an enabled key of an admin. -/
def evaluateAdmin (key : Option String) : Action (Option Denial) := do
  match key with
  | none => return none
  | some secret =>
    let found ← Board.findKey secret
    if found.bind (fun key => Role.named? key.role) = some .admin then return none
    else return some .notAdmin

end Gate

end Pasteboard
