import Pasteboard.Store.Schema
/-!
A board: the database together with what the operations on it consume.

The database may be missing, or there but without tables. An operation that needs the time takes the
next reading of the clock, one that needs a secret takes the next secret. A failing operation leaves
the database as it was, while the readings it took stay taken.
-/

namespace Pasteboard

/-- The database. -/
inductive Database
  /-- It cannot be opened. -/
  | unopenable (place : String)
  /-- It has no tables. -/
  | blank
  /-- It has all tables. -/
  | ready (s : Store)

/-- Items that are handed out one after the other. -/
structure Supply (α : Type) where
  item : Nat → α
  used : Nat := 0

/-- The next item, and the supply without it. -/
def Supply.next {α : Type} (x : Supply α) : α × Supply α :=
  (x.item x.used, { x with used := x.used + 1 })

/-- Readings of a clock that moves by `step` after each, within the integers of 64 bits. -/
def Supply.ticking (start step : Int) : Supply Int where
  item n := Int.bmod (start + n * step) 18446744073709551616

/-- A database, the readings of its clock, and the secrets of the keys to come. -/
structure Board where
  database : Database
  clock : Supply Int
  secrets : Supply String

/-- An operation on a board. -/
abbrev Action := ExceptT StoreError (StateM Board)

/-- An outcome that is already known. -/
def Action.of {α : Type} (result : Except StoreError α) : Action α :=
  ExceptT.mk (pure result)

namespace Board

/-- The database can be opened. -/
def opened : Action Unit := do
  match (← get).database with
  | .unopenable place => throw (.cannotOpen place)
  | _ => return

/-- The stored data, for a statement on `table`. -/
def stored (table : Table) : Action Store := do
  match (← get).database with
  | .unopenable place => throw (.cannotOpen place)
  | .blank => throw (.database (.noTable table))
  | .ready s => return s

/-- Puts other data into the database. -/
def save (s : Store) : Action Unit :=
  modify fun b => { b with database := .ready s }

/-- The next reading of the clock. -/
def readClock : Action Int := do
  let b ← get
  let (time, clock) := b.clock.next
  set { b with clock }
  return time

/-- A question about the data that `table` is needed for. -/
def ask {α : Type} (table : Table) (f : Store → Except StoreError α) : Action α := do
  Action.of (f (← stored table))

/-- A change of the data that `table` is needed for. -/
def change (table : Table) (f : Store → Except StoreError Store) : Action Unit := do
  save (← ask table f)

/-- Creates what is missing of the tables, and adds the full-text index or takes it away. The
answer says whether there is an index now. An index that is added is built from the rows. -/
def createTables (fullText : Bool) : Action Bool := do
  let s := match (← get).database with
    | .ready s => s
    | _ => {}
  let index := if fullText then some (s.index.getD (Search.Index.rebuild s.slots)) else none
  save { s with index }
  return fullText

/-- The tables of the database. -/
def tables : Action (List TableInfo) := do
  match (← get).database with
  | .unopenable place => throw (.cannotOpen place)
  | .blank => return []
  | .ready s => return Schema.tables s.index.isSome

/-- Whether there is a full-text index. -/
def hasIndex : Action Bool := do
  match (← get).database with
  | .unopenable place => throw (.cannotOpen place)
  | .blank => return false
  | .ready s => return s.index.isSome

end Board

end Pasteboard
