import Pasteboard.Listing.Filter
import Pasteboard.Search.Index
import Pasteboard.Store.Error
import Pasteboard.Store.LogEntry
/-!
The stored data: slots, the log of overwrites, keys, address rules and the full-text index.

Rows of every table are listed by id. A new row takes the id after the greatest in use, so the id
of the last row is given out again once that row is deleted. A statement either changes all rows it
selects or, if one of them would break the constraint on rows, fails.
-/

namespace Pasteboard

/-- An API key. The role is kept as text. -/
structure ApiKey where
  id : Int
  secret : String
  label : Option String
  enabled : Bool
  role : String
  createdAt : Int
  lastUsedAt : Option Int
  lastIp : Option String
  deriving DecidableEq, Repr

/-- A rule for the addresses of a block. -/
structure IpRule where
  id : Int
  cidr : String
  enabled : Bool
  createdAt : Int
  deriving DecidableEq, Repr

/-- All tables. -/
structure Store where
  slots : List Row := []
  log : List LogEntry := []
  keys : List ApiKey := []
  allow : List IpRule := []
  deny : List IpRule := []
  /-- The full-text index, if there is one. -/
  index : Option Search.Index := none
  deriving DecidableEq

/-- How many slots may be active: at least one. -/
structure Capacity where
  size : Nat
  size_pos : 0 < size
  deriving DecidableEq, Repr

/-- The capacity for a number, at least one. -/
def Capacity.of (n : Nat) : Capacity :=
  ⟨max 1 n, by omega⟩

/-- The id of a new row. -/
def nextId (ids : List Int) : Int :=
  ids.foldl max 0 + 1

namespace Store

/-- The row with an id. -/
def row? (s : Store) (id : Int) : Option Row :=
  s.slots.find? (·.id == id)

/-- The active rows. -/
def activeRows (s : Store) : List Row :=
  s.slots.filter (·.isActive)

/-- The rules of a list. -/
def rules (s : Store) : RuleList → List IpRule
  | .allow => s.allow
  | .deny => s.deny

/-- Puts other rules on a list. -/
def setRules (s : Store) (list : RuleList) (rules : List IpRule) : Store :=
  match list with
  | .allow => { s with allow := rules }
  | .deny => { s with deny := rules }

/-- Adds a row; the index follows. -/
def insertRow (s : Store) (r : Row) : Except StoreError Store :=
  if r.check then
    .ok { s with
      slots := s.slots ++ [r]
      index := s.index.map (·.applyAll (Search.insertCommands r)) }
  else .error (.database .rowCheck)

/-- Changes the rows that satisfy `p`; the index follows row by row. -/
def updateRows (s : Store) (p : Row → Bool) (f : Row → Row) : Except StoreError Store :=
  if (s.slots.filter p).all fun r => (f r).check then
    .ok { s with
      slots := s.slots.map fun r => if p r then f r else r
      index := s.index.map (·.applyAll ((s.slots.filter p).flatMap fun r =>
        Search.updateCommands r (f r))) }
  else .error (.database .rowCheck)

end Store

end Pasteboard
