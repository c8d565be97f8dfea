import Pasteboard.Text.Letter
/-!
Roles of API keys and the two lists of address rules.

A role allows what the roles below it allow. Keys keep their role as text, and a text that names no
role allows nothing.
-/

namespace Pasteboard

open Pasteboard.Text

/-- What a key may do. -/
inductive Role
  | read
  | write
  | admin
  deriving DecidableEq, Repr

namespace Role

/-- The word for a role. -/
def name : Role → String
  | .read => "read"
  | .write => "write"
  | .admin => "admin"

/-- The words for what a requirement asks for. -/
def asked : Role → String
  | .read => "read or higher"
  | .write => "write or admin"
  | .admin => "admin"

/-- The place of a role among the roles. -/
def rank : Role → Nat
  | .read => 0
  | .write => 1
  | .admin => 2

/-- The role that a word names. -/
def named? (s : String) : Option Role :=
  match keyword s with
  | "read" => some .read
  | "write" => some .write
  | "admin" => some .admin
  | _ => none

/-- Whether a stored role meets a requirement. -/
def metBy (required : Role) (stored : Option Role) : Bool :=
  match stored with
  | none => false
  | some role => required.rank ≤ role.rank

end Role

/-- The lists that an address rule can be on. -/
inductive RuleList
  | allow
  | deny
  deriving DecidableEq, Repr

/-- The word for a list. -/
def RuleList.name : RuleList → String
  | .allow => "allow"
  | .deny => "deny"

/-- The list that a word names. -/
def RuleList.named? (s : String) : Option RuleList :=
  match keyword s with
  | "allow" => some .allow
  | "deny" => some .deny
  | _ => none

end Pasteboard
