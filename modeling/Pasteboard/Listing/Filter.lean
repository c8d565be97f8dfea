import Pasteboard.Slot.Row
/-!
Which rows a listing shows, and in which order.

A filter compiles to a predicate: conditions on columns that must all hold, with values bound to
their places from left to right. Conditions are evaluated in three-valued logic, where a comparison
with an empty column is neither true nor false; a row is shown if the predicate is true of it.
-/

namespace Pasteboard

open Pasteboard.Text

/-- Newest first or oldest first. -/
inductive Order
  | desc
  | asc
  deriving DecidableEq, Repr

/-- The order that a word names. -/
def Order.read? (s : String) : Option Order :=
  match keyword s with
  | "desc" => some .desc
  | "asc" => some .asc
  | _ => none

/-- The columns and directions that an order sorts by. -/
def Order.columns : Order → String
  | .desc => "created_at DESC, id DESC"
  | .asc => "created_at ASC, id ASC"

/-- Whether a time comes before another; an absent time comes first. -/
def timeLess : Option Int → Option Int → Bool
  | none, none => false
  | none, some _ => true
  | some _, none => false
  | some a, some b => decide (a < b)

/-- Whether a row is older than another: earlier in time, or of the same time with a smaller id. -/
def Row.olderThan (r s : Row) : Bool :=
  timeLess r.createdAt s.createdAt || (r.createdAt == s.createdAt && decide (r.id < s.id))

/-- Whether a row may stand before another in an order. -/
def Order.allows (o : Order) (r s : Row) : Bool :=
  match o with
  | .desc => !r.olderThan s
  | .asc => !s.olderThan r

/-- Rows in an order. -/
def Order.sort (o : Order) (rows : List Row) : List Row :=
  rows.mergeSort o.allows

/-! ### Conditions -/

/-- The columns that conditions compare. -/
inductive Column
  | isActive
  | isFile
  | mime
  | filename
  | createdAt
  | id
  deriving DecidableEq, Repr

/-- The name of a column. -/
def Column.name : Column → String
  | .isActive => "is_active"
  | .isFile => "is_file"
  | .mime => "mime"
  | .filename => "filename"
  | .createdAt => "created_at"
  | .id => "id"

/-- A value of a column or of a place. -/
inductive Cell
  | null
  | int (n : Int)
  | text (s : String)
  deriving DecidableEq, Repr

/-- The relations that conditions use. -/
inductive Relation
  | eq
  | lt
  | gt
  deriving DecidableEq, Repr

/-- The sign of a relation. -/
def Relation.sign : Relation → String
  | .eq => "="
  | .lt => "<"
  | .gt => ">"

/-- What a column is compared with: a number in the text, or the next bound value. -/
inductive Operand
  | lit (n : Int)
  | place
  deriving DecidableEq, Repr

/-- A condition on a row. -/
inductive Condition
  | test (c : Column) (r : Relation) (o : Operand)
  | both (a b : Condition)
  | either (a b : Condition)
  deriving DecidableEq, Repr

/-- The text of an operand. -/
def Operand.text : Operand → String
  | .lit n => toString n
  | .place => "?"

/-- The text of a condition. -/
def Condition.text : Condition → String
  | .test c r o => c.name ++ " " ++ r.sign ++ " " ++ o.text
  | .both a b => "(" ++ a.text ++ " AND " ++ b.text ++ ")"
  | .either a b => "(" ++ a.text ++ " OR " ++ b.text ++ ")"

/-- The value of a column of a row. -/
def Row.cell (r : Row) : Column → Cell
  | .isActive => .int (if r.isActive then 1 else 0)
  | .isFile => .int (if r.isFile then 1 else 0)
  | .mime => (r.mime.map Cell.text).getD .null
  | .filename => (r.filename.map Cell.text).getD .null
  | .createdAt => (r.createdAt.map Cell.int).getD .null
  | .id => .int r.id

/-- A comparison; unknown if either side is empty. Numbers come before texts. -/
def Relation.holds (r : Relation) : Cell → Cell → Option Bool
  | .null, _ => none
  | _, .null => none
  | .int a, .int b => some (match r with
    | .eq => decide (a = b)
    | .lt => decide (a < b)
    | .gt => decide (b < a))
  | .text a, .text b => some (match r with
    | .eq => decide (a = b)
    | .lt => decide (a < b)
    | .gt => decide (b < a))
  | .int _, .text _ => some (r == .lt)
  | .text _, .int _ => some (r == .gt)

/-- Conjunction of truth values that may be unknown. -/
def and3 : Option Bool → Option Bool → Option Bool
  | some false, _ => some false
  | _, some false => some false
  | some true, some true => some true
  | _, _ => none

/-- Disjunction of truth values that may be unknown. -/
def or3 : Option Bool → Option Bool → Option Bool
  | some true, _ => some true
  | _, some true => some true
  | some false, some false => some false
  | _, _ => none

/-- The truth value of a condition, with the bound values that it does not use. -/
def Condition.eval (cells : Column → Cell) : Condition → List Cell → Option Bool × List Cell
  | .test c r (.lit n), bound => (r.holds (cells c) (.int n), bound)
  | .test c r .place, v :: bound => (r.holds (cells c) v, bound)
  | .test _ _ .place, [] => (none, [])
  | .both a b, bound =>
    let (x, bound) := a.eval cells bound
    let (y, bound) := b.eval cells bound
    (and3 x y, bound)
  | .either a b, bound =>
    let (x, bound) := a.eval cells bound
    let (y, bound) := b.eval cells bound
    (or3 x y, bound)

/-! ### Predicates -/

/-- Conditions that must all hold, and the values bound to their places. -/
structure Predicate where
  clauses : List Condition
  bound : List Cell
  deriving DecidableEq, Repr

/-- Adds a condition and its values. -/
def Predicate.add (p : Predicate) (clause : Condition) (values : List Cell) : Predicate :=
  ⟨p.clauses ++ [clause], p.bound ++ values⟩

/-- The text that restricts a query to a predicate. -/
def Predicate.whereText (p : Predicate) : String :=
  if p.clauses.isEmpty then ""
  else " WHERE " ++ String.intercalate " AND " (p.clauses.map Condition.text)

/-- The truth value of clauses that must all hold. -/
def evalAll (cells : Column → Cell) : List Condition → List Cell → Option Bool
  | [], _ => some true
  | c :: cs, bound =>
    let (x, bound) := c.eval cells bound
    and3 x (evalAll cells cs bound)

/-- Whether a predicate is true of a row. -/
def Predicate.selects (p : Predicate) (r : Row) : Bool :=
  evalAll r.cell p.clauses p.bound == some true

/-! ### Filters -/

/-- What a listing is restricted to. -/
structure Filter where
  includeInactive : Bool := false
  isFile : Option Bool := none
  mime : Option String := none
  filename : Option String := none
  order : Order := .desc
  deriving DecidableEq, Repr

/-- Where a page starts: after a number of rows, or after the row of a cursor. -/
inductive Position
  | offset (n : Nat)
  | after (c : Cursor)
  deriving DecidableEq, Repr

/-- The predicate of the rows that a filter lets through. -/
def Filter.predicate (f : Filter) : Predicate :=
  let p : Predicate := ⟨[], []⟩
  let p := if f.includeInactive then p else p.add (.test .isActive .eq (.lit 1)) []
  let p := match f.isFile with
    | some isFile => p.add (.test .isFile .eq .place) [.int (if isFile then 1 else 0)]
    | none => p
  let p := match f.mime with
    | some mime => p.add (.test .mime .eq .place) [.text mime]
    | none => p
  match f.filename with
  | some filename => p.add (.test .filename .eq .place) [.text filename]
  | none => p

/-- The condition of standing past a cursor. -/
def Order.past (o : Order) : Condition :=
  let r : Relation := match o with
    | .desc => .lt
    | .asc => .gt
  .either (.test .createdAt r .place) (.both (.test .createdAt .eq .place) (.test .id r .place))

/-- The predicate of the rows that a filter lets through past a cursor. -/
def Filter.predicateAfter (f : Filter) (cursor : Option Cursor) : Predicate :=
  match cursor with
  | none => f.predicate
  | some c => f.predicate.add f.order.past [.int c.createdAt, .int c.createdAt, .int c.id]

/-- The cursor and the number of rows to leave out that a position stands for. -/
def Position.split : Position → Option Cursor × Nat
  | .offset n => (none, min n 9223372036854775807)
  | .after c => (some c, 0)

/-- The rows that a filter lets through, in its order. -/
def Filter.rows (f : Filter) (rows : List Row) : List Row :=
  f.order.sort (rows.filter f.predicate.selects)

/-- A page of the rows that a filter lets through and that satisfy `more`. -/
def Filter.page (f : Filter) (more : Row → Bool) (limit : Nat) (position : Position)
    (rows : List Row) : List Row :=
  let (cursor, skip) := position.split
  let shown := rows.filter fun r => (f.predicateAfter cursor).selects r && more r
  ((f.order.sort shown).drop skip).take limit

end Pasteboard
