import Pasteboard.Slot.Row
/-!
The full-text index.

The index holds entries, each a row's id and the text that was indexed for it. Changes of rows keep
it in step by commands that add an entry or remove one; a removal names the entry with its text.
`faults` counts removals of entries that were not there.
-/

namespace Pasteboard.Search

/-- An entry: an id and the indexed text. -/
structure Entry where
  id : Int
  text : Option String
  deriving DecidableEq, Repr

/-- The index. -/
structure Index where
  entries : List Entry
  faults : Nat
  deriving DecidableEq, Repr

/-- A command to the index. -/
inductive Command
  | add (e : Entry)
  | remove (e : Entry)
  deriving DecidableEq, Repr

/-- The entry of a row. -/
def entryOf (r : Row) : Entry :=
  ⟨r.id, r.content⟩

/-- The commands for a row that was inserted. -/
def insertCommands (r : Row) : List Command :=
  if r.isActiveText then [.add (entryOf r)] else []

/-- The commands for a row that was changed. -/
def updateCommands (old new : Row) : List Command :=
  (if old.isActiveText then [.remove (entryOf old)] else []) ++
    (if new.isActiveText then [.add (entryOf new)] else [])

/-- Carries out a command. -/
def Index.apply (x : Index) : Command → Index
  | .add e => { x with entries := x.entries ++ [e] }
  | .remove e =>
    if x.entries.contains e then { x with entries := x.entries.erase e }
    else { x with faults := x.faults + 1 }

/-- Carries out commands one after the other. -/
def Index.applyAll (x : Index) (commands : List Command) : Index :=
  commands.foldl Index.apply x

/-- The index of all rows as they are. -/
def Index.rebuild (rows : List Row) : Index :=
  ⟨rows.map entryOf, 0⟩

/-- The ids of the entries whose text satisfies `p`. -/
def Index.matching (x : Index) (p : String → Bool) : List Int :=
  x.entries.filterMap fun e =>
    match e.text with
    | some text => if p text then some e.id else none
    | none => none

end Pasteboard.Search
