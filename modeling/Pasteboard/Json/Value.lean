import Pasteboard.Named
import Pasteboard.Text.Binary64
/-!
JSON values.

Whole numbers keep every digit of the ranges of 64 bits; any other number is a binary
floating-point number. The members of an object keep their order, and a name stands once.
-/

namespace Pasteboard

/-- A JSON number. -/
inductive Number
  /-- A whole number between `-2 ^ 63` and `2 ^ 64 - 1`. -/
  | whole (n : Int)
  /-- Any other number, and negative zero. -/
  | real (negative : Bool) (x : Text.Binary64)
  deriving DecidableEq, Repr

/-- A JSON value. -/
inductive Json
  | null
  | bool (b : Bool)
  | num (n : Number)
  | str (s : String)
  | arr (items : List Json)
  | obj (members : List (String × Json))
  deriving Repr, Inhabited

/-- The text of a number. -/
def Number.text : Number → String
  | .whole n => toString n
  | .real negative x => (if negative then "-" else "") ++ x.text

namespace Json

/-- A whole number as a value. -/
def int (n : Int) : Json := .num (.whole n)

/-- A count as a value. -/
def nat (n : Nat) : Json := .num (.whole n)

/-- A value that may be absent, `null` if it is. -/
def opt {α : Type} (f : α → Json) : Option α → Json
  | none => .null
  | some a => f a

/-- The member of an object with a name; nothing for other values. -/
def member? (name : String) : Json → Option Json
  | .obj members => members.lookup name
  | _ => none

/-- The characters of a string value. -/
def text? : Json → Option String
  | .str s => some s
  | _ => none

end Json

end Pasteboard
