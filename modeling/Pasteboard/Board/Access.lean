import Pasteboard.Board.Basic
import Pasteboard.Store.Access
/-!
Operations on the keys and address rules of a board.

Issuing a key and noting its use take one reading of the clock each. A rule takes one once its block
is accepted, before anything is known of the database. A secret is used up when its key is stored.
-/

namespace Pasteboard.Board

/-- Secrets of 48 hexadecimal digits that a seed determines. -/
def secretsFrom (seed : ByteArray) : Supply String where
  item n := String.ofList
    ((Text.Sha256.hex (seed ++ (toString n).toUTF8)).toList.take 48)

/-- Adds a key with a fresh secret. -/
def issueKey (role : Role) (label : Option String) (enabled : Bool) : Action ApiKey := do
  opened
  let now ← readClock
  let (secret, secrets) := (← get).secrets.next
  let (key, s) ← ask .keys (·.issueKey secret role label enabled now)
  save s
  modify fun b => { b with secrets }
  return key

/-- All keys. -/
def keys : Action (List ApiKey) :=
  ask .keys fun s => .ok s.keys

/-- How many keys there are. -/
def countKeys : Action Nat :=
  ask .keys fun s => .ok s.keys.length

/-- The key with an id. -/
def getKey (id : Int) : Action ApiKey :=
  ask .keys (·.getKey id)

/-- Gives a key another role. -/
def setRole (id : Int) (role : Role) : Action Unit :=
  change .keys (·.setRole id role)

/-- Gives a key another label, or none. -/
def setLabel (id : Int) (label : Option String) : Action Unit :=
  change .keys (·.setLabel id label)

/-- Enables or disables a key. -/
def setEnabled (id : Int) (enabled : Bool) : Action Unit :=
  change .keys (·.setEnabled id enabled)

/-- Deletes a key. -/
def deleteKey (id : Int) : Action Unit :=
  change .keys (·.deleteKey id)

/-- The enabled key with a secret. -/
def findKey (secret : String) : Action (Option ApiKey) :=
  ask .keys fun s => .ok (s.findKey secret)

/-- Notes the use of a key. -/
def touchKey (id : Int) (ip : String) : Action Unit := do
  opened
  let now ← readClock
  change .keys fun s => .ok (s.touchKey id ip now)

/-- Writes any text as the role of a key; gives the number of keys changed. -/
def overwriteRole (id : Int) (role : String) : Action Nat := do
  let (n, s) ← ask .keys fun s => .ok (s.overwriteRole id role)
  save s
  return n

/-- Adds the block that a text names to a list. -/
def addRule (list : RuleList) (cidr : String) : Action IpRule := do
  let block ← match Net.normalizeCidr cidr with
    | .ok block => pure block
    | .error fault => throw (.refused (.cidr fault))
  let now ← readClock
  let (rule, s) ← ask (.rules list) (·.addRule list block now)
  save s
  return rule

/-- Removes a rule from a list. -/
def removeRule (list : RuleList) (id : Int) : Action Unit :=
  change (.rules list) (·.removeRule list id)

/-- The rules of a list. -/
def rules (list : RuleList) : Action (List IpRule) :=
  ask (.rules list) fun s => .ok (s.rules list)

/-- The texts of the enabled rules of a list. -/
def enabledCidrs (list : RuleList) : Action (List String) :=
  ask (.rules list) fun s => .ok (s.enabledCidrs list)

/-- Enables or disables a rule; gives the number of rules changed. -/
def switchRule (list : RuleList) (id : Int) (enabled : Bool) : Action Nat := do
  let (n, s) ← ask (.rules list) fun s => .ok (s.switchRule list id enabled)
  save s
  return n

end Pasteboard.Board
