import Pasteboard.Api.Slots
/-!
The endpoints for administration: keys, address rules, and the listing of all slots.
-/

namespace Pasteboard.Api

open Pasteboard.Http
open Pasteboard.Text

/-! ### Values -/

/-- A key as a value. -/
def keyJson (k : ApiKey) : Json :=
  .obj [("id", .int k.id), ("key", .str k.secret), ("label", .opt .str k.label),
    ("enabled", .bool k.enabled), ("role", .str k.role), ("created_at", .int k.createdAt),
    ("last_used_at", .opt .int k.lastUsedAt), ("last_ip", .opt .str k.lastIp)]

/-- An address rule as a value. -/
def ruleJson (r : IpRule) : Json :=
  .obj [("id", .int r.id), ("cidr", .str r.cidr), ("enabled", .bool r.enabled),
    ("created_at", .int r.createdAt)]

/-- The role that a word names. -/
def roleOf (raw : String) : Except Response Role :=
  (Role.named raw).mapError storeFailure

/-- The list that a word names. -/
def listOf (raw : String) : Except Response RuleList :=
  (RuleList.named raw).mapError storeFailure

/-- The text of a field of a record, if it has one. -/
def fieldText : Json.Record.Value → Option String
  | .text s => some s
  | _ => none

/-- The truth value of a field of a record, if it has one. -/
def fieldBool : Json.Record.Value → Option Bool
  | .bool b => some b
  | _ => none

/-! ### Listings -/

/-- Answers with all keys and rules. -/
def overview : Handler Response := do
  let keys ← act Board.keys
  let allow ← act (Board.rules .allow)
  let deny ← act (Board.rules .deny)
  return ok (.obj [("keys", .arr (keys.map keyJson)), ("allow", .arr (allow.map ruleJson)),
    ("deny", .arr (deny.map ruleJson))])

/-- The size of a page of all slots. -/
def fullPageSize (s : Settings) (raw : Option String) : Nat :=
  match raw.bind (Numeral.read? Numeral.nat32) with
  | some n => (max 1 (min n s.limits.slots)).toNat
  | none => s.limits.slots

/-- The number of slots that a listing leaves out. -/
def offsetOf : Option String → Except Response Nat
  | none => .ok 0
  | some raw =>
    match Numeral.read? Numeral.nat64 raw with
    | some n => .ok n.toNat
    | none => .error (invalid "Invalid offset")

/-- Answers with a page of slots, the inactive ones included if that is asked for. -/
def listSlots (s : Settings) (params : Params) : Handler Response := do
  let limit := fullPageSize s (params.word? "limit")
  let offset ← Handler.of (offsetOf (params.word? "offset"))
  let order ← Handler.of (orderOf (params.word? "order"))
  let filter := filterOf ((params.word? "include_inactive").any isTruthy) order params
  let records ← act (Board.list limit filter (.offset offset))
  let total ← act (Board.count filter)
  return success 200 (recordsJson records) (some (.obj [("count", .nat records.length),
    ("limit", .nat limit), ("offset", .nat offset), ("total", .nat total)]))

/-! ### Keys -/

/-- The fields of a key in a body. -/
structure KeyFields where
  role : Option String := none
  label : Option String := none
  enabled : Option Bool := none
  deriving DecidableEq, Repr

/-- Reads the fields of a key. -/
def KeyFields.read (s : Settings) (r : Request) : Except Response KeyFields := do
  let values ← readRecord s r
    [("role", .optionalText), ("label", .optionalText), ("enabled", .optionalBool)]
  match values with
  | [role, label, enabled] => return ⟨fieldText role, fieldText label, fieldBool enabled⟩
  | _ => return {}

/-- Issues a key. A body that cannot be read counts as no body. -/
def createKey (s : Settings) (r : Request) : Handler Response := do
  let fields := (KeyFields.read s r).toOption.getD {}
  let role ← match fields.role with
    | some raw => Handler.of (roleOf raw)
    | none => pure .write
  let label := fields.label.filter fun l => !allBlank l
  let key ← act (Board.issueKey role label (fields.enabled.getD true))
  return success 201 (keyJson key)

/-- Changes the fields of a key that are given, in the order of role, label and state. -/
def changeKey (id : Int) (role : Option Role) (fields : KeyFields) : Action ApiKey := do
  match role with
  | some role => Board.setRole id role
  | none => pure ()
  match fields.label with
  | some label => Board.setLabel id (trimmed? label)
  | none => pure ()
  match fields.enabled with
  | some enabled => Board.setEnabled id enabled
  | none => pure ()
  Board.getKey id

/-- Updates a key. -/
def updateKey (s : Settings) (r : Request) (params : Params) : Handler Response := do
  let fields ← Handler.of (KeyFields.read s r)
  let id ← Handler.of (requiredId params)
  let role ← match fields.role with
    | some raw => some <$> Handler.of (roleOf raw)
    | none => pure none
  if role.isNone && fields.label.isNone && fields.enabled.isNone then
    throw (invalid "Nothing to update")
  let key ← act (changeKey id role fields)
  return ok (keyJson key)

/-- Deletes a key if that is asked for, else disables it. -/
def deleteKey (params : Params) : Handler Response := do
  let id ← Handler.of (requiredId params)
  if (params.lookup "hard").any isTruthy then act (Board.deleteKey id)
  else act (Board.setEnabled id false)
  return .bare 204

/-! ### Address rules -/

/-- Reads the list and the block of a rule. -/
def readRule (s : Settings) (r : Request) : Except Response (String × String) := do
  match ← readRecord s r [("list", .text), ("cidr", .text)] with
  | [.text list, .text cidr] => return (list, cidr)
  | _ => throw (.bare 422)

/-- Adds a rule. -/
def addRule (s : Settings) (r : Request) : Handler Response := do
  let (list, cidr) ← Handler.of (readRule s r)
  let list ← Handler.of (listOf list)
  let rule ← act (Board.addRule list cidr)
  return success 201 (.obj [("list", .str list.name), ("rule", ruleJson rule)])

/-- Removes a rule. -/
def removeRule (params : Params) : Handler Response := do
  let list ← match params.lookup "list" with
    | some raw => Handler.of (listOf raw)
    | none => throw (invalid "List required")
  let id ← Handler.of (requiredId params)
  act (Board.removeRule list id)
  return .bare 204

end Pasteboard.Api
