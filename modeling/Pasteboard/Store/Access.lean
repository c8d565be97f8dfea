import Pasteboard.Store.Basic
/-!
Operations on keys and address rules.

A key is found by its secret while it is enabled. Deleting a key takes its id out of the log. A list
holds each block once, under its normal text.
-/

namespace Pasteboard

namespace Store

/-! ### Keys -/

/-- Adds a key with a secret that no key has. -/
def issueKey (secret : String) (role : Role) (label : Option String) (enabled : Bool) (now : Int)
    (s : Store) : Except StoreError (ApiKey × Store) :=
  if s.keys.any (·.secret == secret) then .error (.database .sameSecret)
  else
    let key : ApiKey := ⟨nextId (s.keys.map (·.id)), secret, label, enabled, role.name, now, none, none⟩
    .ok (key, { s with keys := s.keys ++ [key] })

/-- The key with an id. -/
def key? (id : Int) (s : Store) : Option ApiKey :=
  s.keys.find? (·.id == id)

/-- The key with an id, which must be there. -/
def getKey (id : Int) (s : Store) : Except StoreError ApiKey :=
  match s.key? id with
  | some key => .ok key
  | none => .error .notFound

/-- Changes the key with an id, which must be there. -/
def updateKey (id : Int) (f : ApiKey → ApiKey) (s : Store) : Except StoreError Store :=
  if s.keys.any (·.id == id) then
    .ok { s with keys := s.keys.map fun k => if k.id == id then f k else k }
  else .error .notFound

/-- Gives a key another role. -/
def setRole (id : Int) (role : Role) (s : Store) : Except StoreError Store :=
  s.updateKey id fun k => { k with role := role.name }

/-- Gives a key another label, or none. -/
def setLabel (id : Int) (label : Option String) (s : Store) : Except StoreError Store :=
  s.updateKey id fun k => { k with label }

/-- Enables or disables a key. -/
def setEnabled (id : Int) (enabled : Bool) (s : Store) : Except StoreError Store :=
  s.updateKey id fun k => { k with enabled }

/-- Deletes a key; entries of the log that name it name no key any more. -/
def deleteKey (id : Int) (s : Store) : Except StoreError Store :=
  if s.keys.any (·.id == id) then
    .ok { s with
      keys := s.keys.filter (·.id != id)
      log := s.log.map fun e => if e.byKeyId == some id then { e with byKeyId := none } else e }
  else .error .notFound

/-- The enabled key with a secret. -/
def findKey (secret : String) (s : Store) : Option ApiKey :=
  s.keys.find? fun k => k.secret == secret && k.enabled

/-- Notes when and from where a key was used; nothing happens if there is no such key. -/
def touchKey (id : Int) (ip : String) (now : Int) (s : Store) : Store :=
  { s with keys := s.keys.map fun k =>
      if k.id == id then { k with lastUsedAt := some now, lastIp := some ip } else k }

/-- Writes any text as the role of a key; gives the number of keys changed. -/
def overwriteRole (id : Int) (role : String) (s : Store) : Nat × Store :=
  ((s.keys.filter (·.id == id)).length,
    { s with keys := s.keys.map fun k => if k.id == id then { k with role } else k })

/-! ### Rules -/

/-- Adds a rule for a block in its normal text. -/
def addRule (list : RuleList) (cidr : String) (now : Int) (s : Store) :
    Except StoreError (IpRule × Store) :=
  let rules := s.rules list
  if rules.any (·.cidr == cidr) then .error (.conflict (.ruleExists cidr list))
  else
    let rule : IpRule := ⟨nextId (rules.map (·.id)), cidr, true, now⟩
    .ok (rule, s.setRules list (rules ++ [rule]))

/-- Removes the rule with an id, which must be there. -/
def removeRule (list : RuleList) (id : Int) (s : Store) : Except StoreError Store :=
  let rules := s.rules list
  if rules.any (·.id == id) then .ok (s.setRules list (rules.filter (·.id != id)))
  else .error .notFound

/-- The texts of the rules of a list that are enabled. -/
def enabledCidrs (list : RuleList) (s : Store) : List String :=
  ((s.rules list).filter (·.enabled)).map (·.cidr)

/-- Enables or disables the rule with an id; gives the number of rules changed. -/
def switchRule (list : RuleList) (id : Int) (enabled : Bool) (s : Store) : Nat × Store :=
  let rules := s.rules list
  ((rules.filter (·.id == id)).length,
    s.setRules list (rules.map fun r => if r.id == id then { r with enabled } else r))

end Store

end Pasteboard
