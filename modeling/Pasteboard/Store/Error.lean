import Pasteboard.Access.Role
import Pasteboard.Net.Cidr
import Pasteboard.Search.Query
/-!
Why an operation on stored data fails.

Each constructor is a cause; `StoreError.message` has the wording.
-/

namespace Pasteboard

/-- The tables that operations need. -/
inductive Table
  | slots
  | log
  | keys
  | rules (list : RuleList)
  deriving DecidableEq, Repr

/-- The name of a table. -/
def Table.name : Table → String
  | .slots => "karing"
  | .log => "overwrite_log"
  | .keys => "api_keys"
  | .rules .allow => "ip_allow"
  | .rules .deny => "ip_deny"

/-- What clashes with the stored data. -/
inductive Conflict
  | otherKind (id : Int)
  | noSnapshot (id : Int)
  | ruleExists (cidr : String) (list : RuleList)
  deriving DecidableEq, Repr

/-- The words for a clash. -/
def Conflict.message : Conflict → String
  | .otherKind id => "slot " ++ toString id ++ " is not an active slot of the patched kind"
  | .noSnapshot id => "no snapshot recorded for slot " ++ toString id
  | .ruleExists cidr list => cidr ++ " is already on the " ++ list.name ++ " list"

/-- A value that is refused. The word of an unknown role or list is trimmed and in lower case. -/
inductive Refusal
  | role (word : String)
  | list (word : String)
  | cidr (fault : Net.CidrFault)
  deriving DecidableEq, Repr

/-- The field that a refused value was given for. -/
def Refusal.field : Refusal → String
  | .role _ => "role"
  | .list _ => "list"
  | .cidr _ => "cidr"

/-- The words for a refusal. -/
def Refusal.message : Refusal → String
  | .role word => "unknown role '" ++ word ++ "', expected read, write or admin"
  | .list word => "unknown list '" ++ word ++ "', expected allow or deny"
  | .cidr fault => fault.message

/-- A statement that the database does not carry out. -/
inductive DatabaseFault
  | noTable (table : Table)
  | foreignKey
  | rowCheck
  | sameSecret
  | patternTooLong
  | unterminatedString
  deriving DecidableEq, Repr

/-- The words for a fault of the database. -/
def DatabaseFault.message : DatabaseFault → String
  | .noTable table => "no such table: " ++ table.name
  | .foreignKey => "FOREIGN KEY constraint failed"
  | .rowCheck => "CHECK constraint failed: karing"
  | .sameSecret => "UNIQUE constraint failed: api_keys.key"
  | .patternTooLong => "LIKE or GLOB pattern too complex"
  | .unterminatedString => "unterminated string"

/-- Why an operation on stored data fails. -/
inductive StoreError
  | notFound
  | conflict (c : Conflict)
  | refused (r : Refusal)
  | badQuery (reason : String)
  | searchUnavailable
  | cannotOpen (place : String)
  | database (f : DatabaseFault)
  deriving DecidableEq, Repr

/-- The words for a database that cannot be opened. -/
def openFault (place : String) : String :=
  "unable to open database file: " ++ place

/-- The words for a failure. -/
def StoreError.message : StoreError → String
  | .notFound => "not found"
  | .conflict c => c.message
  | .refused r => r.field ++ ": " ++ r.message
  | .badQuery reason => "invalid search query: " ++ reason
  | .searchUnavailable => "full-text search unavailable"
  | .cannotOpen place => "failed to open database '" ++ place ++ "': " ++ openFault place
  | .database f => "sqlite: " ++ f.message

/-- The role that a word names. -/
def Role.named (s : String) : Except StoreError Role :=
  match Role.named? s with
  | some role => .ok role
  | none => .error (.refused (.role (Text.keyword s)))

/-- The list that a word names. -/
def RuleList.named (s : String) : Except StoreError RuleList :=
  match RuleList.named? s with
  | some list => .ok list
  | none => .error (.refused (.list (Text.keyword s)))

end Pasteboard
