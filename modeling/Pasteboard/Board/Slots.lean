import Pasteboard.Board.Basic
import Pasteboard.Store.Search
import Pasteboard.Store.Slots
/-!
Operations on the slots of a board.

A new slot takes one reading of the clock, even if it then fails. A replacement takes one once it is
known which row it replaces by what.
-/

namespace Pasteboard.Board

/-- Stores a new payload and gives the id of its slot. -/
def allocate (capacity : Capacity) (p : Payload) : Action Int := do
  opened
  let now ← readClock
  let (id, s) ← ask .slots (·.allocate capacity now p)
  save s
  return id

/-- Carries out a replacement that is worked out from the data. -/
def replace (capacity : Capacity) (table : Table)
    (plan : Store → Except StoreError Store.Replacement) (actor : Actor) : Action Unit := do
  let (before, p) ← ask table plan
  let now ← readClock
  change .slots (·.replaceRow capacity now before p actor)

/-- Replaces the payload of any row. -/
def update (capacity : Capacity) (id : Int) (p : Payload) (actor : Actor) : Action Unit :=
  replace capacity .slots (·.toReplace id p) actor

/-- Replaces the text of an active text slot, by the same text if none is given. -/
def patchText (capacity : Capacity) (id : Int) (content : Option String) (actor : Actor) :
    Action Unit :=
  replace capacity .slots (·.toPatchText id content) actor

/-- Replaces fields of an active file slot. -/
def patchFile (capacity : Capacity) (id : Int) (patch : Store.FilePatch) (actor : Actor) :
    Action Unit :=
  replace capacity .slots (·.toPatchFile id patch) actor

/-- Puts the text back that the latest logged replacement of a text overwrote. -/
def restore (capacity : Capacity) (id : Int) (actor : Actor) : Action Unit :=
  replace capacity .log (·.toRestore id) actor

/-- Retires an active slot. -/
def delete (id : Int) : Action Unit :=
  change .slots (·.delete id)

/-- The record of an active slot. -/
def getSlot (id : Int) : Action Record :=
  ask .slots (·.get id)

/-- The file of an active file slot. -/
def getFile (id : Int) : Action Upload :=
  ask .slots (·.getFile id)

/-- The id of the newest active slot. -/
def latestId : Action (Option Int) :=
  ask .slots fun s => .ok s.latestId

/-- A page of a listing. -/
def list (limit : Nat) (f : Filter) (position : Position) : Action (List Record) :=
  ask .slots fun s => .ok (s.list limit f position)

/-- How many rows a filter lets through. -/
def count (f : Filter) : Action Nat :=
  ask .slots fun s => .ok (s.count f)

/-- How many slots are active. -/
def countActive : Action Nat :=
  ask .slots fun s => .ok s.countActive

/-- Searches active text. The query is examined before the database is opened, and without tables a
search fails only when it looks for slots. -/
def search (fallback : Bool) (raw : String) (limit : Nat) (f : Filter) (position : Position) :
    Action Found := do
  match (← get).database with
  | .ready s => Action.of (s.search fallback raw limit f position)
  | .blank =>
    let found ← Action.of (Store.search fallback raw limit f position {})
    if f.isFile = some true then return found else throw (.database (.noTable .slots))
  | .unopenable place =>
    match Search.expression raw with
    | .ok _ => throw (.cannotOpen place)
    | .error fault => throw (.badQuery fault.reason)

end Pasteboard.Board
