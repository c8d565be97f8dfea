import Pasteboard.Store.Basic
/-!
Operations on slots.

At most as many slots are active as the capacity says: an operation that leaves more retires the
oldest. A new payload takes the first free row, else a new row; with all places taken it takes the
place of the oldest slot. A replacement is logged, keeps the time of creation of an active slot,
and revives an inactive one. An operation that fails leaves the store as it was.
-/

namespace Pasteboard

namespace Store

/-- The ids of the active rows beyond the `limit` newest. -/
def surplus (limit : Nat) (s : Store) : List Int :=
  ((Order.desc.sort s.activeRows).drop limit).map (·.id)

/-- Retires the oldest active rows beyond `limit`, and tells how many these are. -/
def trim (limit : Nat) (s : Store) : Except StoreError (Nat × Store) := do
  let ids := s.surplus limit
  let t ← s.updateRows (fun r => ids.contains r.id) Row.retired
  return ((s.slots.filter fun r => ids.contains r.id).length, t)

/-! ### New slots -/

/-- The row that a new payload takes, if a row is there to take. -/
def target (capacity : Capacity) (s : Store) : Option Row :=
  if s.activeRows.length < capacity.size then s.slots.find? fun r => !r.isActive
  else (Order.asc.sort s.activeRows).head?

/-- Fills a row with a new payload. -/
def fill (now : Int) (p : Payload) (r : Row) : Row :=
  { r.withPayload p with createdAt := some now, updatedAt := none, revision := 0, isActive := true }

/-- Stores a new payload and gives the id of its slot. -/
def allocate (capacity : Capacity) (now : Int) (p : Payload) (s : Store) :
    Except StoreError (Int × Store) := do
  let (id, s) ← match s.target capacity with
    | some r => pure (r.id, s)
    | none =>
      let id := nextId (s.slots.map (·.id))
      let s ← s.insertRow (Row.fresh id)
      pure (id, s)
  let s ← s.updateRows (·.id == id) (fill now p)
  let (_, s) ← s.trim capacity.size
  return (id, s)

/-! ### Replacements -/

/-- The row after a replacement. -/
def refill (now : Int) (p : Payload) (r : Row) : Row :=
  { r.withPayload p with
    createdAt := if r.isActive then r.createdAt else some now
    updatedAt := some now
    revision := r.revision + 1
    isActive := true }

/-- Adds an entry to the log. The key it names must be there. -/
def appendLog (time : Int) (before : Row) (after : Payload) (actor : Actor) (s : Store) :
    Except StoreError Store :=
  let known := match actor.keyId with
    | some keyId => s.keys.any (·.id == keyId)
    | none => true
  if known then
    let id := nextId (s.log.map (·.id))
    .ok { s with log := s.log ++ [LogEntry.ofReplacement id time before after actor] }
  else .error (.database .foreignKey)

/-- Replaces the payload of a row. -/
def replaceRow (capacity : Capacity) (now : Int) (before : Row) (p : Payload) (actor : Actor)
    (s : Store) : Except StoreError Store := do
  let s ← s.updateRows (·.id == before.id) (refill now p)
  let s ← s.appendLog now before p actor
  let (_, s) ← s.trim capacity.size
  return s

/-- What a replacement acts on: the row and its new payload. -/
abbrev Replacement := Row × Payload

/-- A full replacement of any row. -/
def toReplace (id : Int) (p : Payload) (s : Store) : Except StoreError Replacement :=
  match s.row? id with
  | some r => .ok (r, p)
  | none => .error .notFound

/-- A replacement of the text of an active text slot, by the same text if none is given. -/
def toPatchText (id : Int) (content : Option String) (s : Store) : Except StoreError Replacement :=
  match s.row? id with
  | some r =>
    if r.isActiveText then .ok (r, .text (content.getD (r.content.getD "")))
    else .error (.conflict (.otherKind id))
  | none => .error (.conflict (.otherKind id))

/-- The fields of a file that a patch replaces. -/
structure FilePatch where
  filename : Option String := none
  mime : Option String := none
  data : Option ByteArray := none
  deriving DecidableEq

/-- The file of a row with the fields of a patch. -/
def FilePatch.onto (patch : FilePatch) (r : Row) : Upload :=
  ⟨(patch.filename.or r.filename).getD "", (patch.mime.or r.mime).getD "",
    (patch.data.or r.blob).getD ByteArray.empty⟩

/-- A replacement of some fields of an active file slot. -/
def toPatchFile (id : Int) (patch : FilePatch) (s : Store) : Except StoreError Replacement :=
  match s.row? id with
  | some r =>
    if r.isActiveFile then .ok (r, .file (patch.onto r))
    else .error (.conflict (.otherKind id))
  | none => .error (.conflict (.otherKind id))

/-- Whether an entry of the log is later than another, or of the same time with a greater id. -/
def laterEntry (a b : LogEntry) : Bool :=
  decide (b.time < a.time) || (a.time == b.time && decide (b.id < a.id))

/-- The text before the latest logged replacement of a slot that had one. -/
def snapshot? (id : Int) (s : Store) : Option String :=
  let entries := s.log.filter fun e => e.slotId == id && e.contentBefore.isSome
  let latest := entries.foldl (fun best e => match best with
    | none => some e
    | some b => if laterEntry e b then some e else some b) none
  latest.bind (·.contentBefore)

/-- A replacement by the text that the latest logged replacement overwrote. -/
def toRestore (id : Int) (s : Store) : Except StoreError Replacement :=
  match s.snapshot? id with
  | none => .error (.conflict (.noSnapshot id))
  | some content => s.toReplace id (.text content)

/-! ### Deletion -/

/-- Retires an active slot. -/
def delete (id : Int) (s : Store) : Except StoreError Store :=
  if s.slots.any fun r => r.id == id && r.isActive then
    s.updateRows (fun r => r.id == id && r.isActive) Row.retired
  else .error .notFound

/-! ### Reading -/

/-- The record of an active slot. -/
def get (id : Int) (s : Store) : Except StoreError Record :=
  match s.slots.find? fun r => r.id == id && r.isActive with
  | some r => .ok r.record
  | none => .error .notFound

/-- The file of an active file slot. -/
def getFile (id : Int) (s : Store) : Except StoreError Upload :=
  match s.slots.find? fun r => r.id == id && r.isActiveFile with
  | some r => .ok ⟨r.filename.getD "", r.mime.getD "", r.blob.getD ByteArray.empty⟩
  | none => .error .notFound

/-- The id of the newest active slot. -/
def latestId (s : Store) : Option Int :=
  (Order.desc.sort s.activeRows).head?.map (·.id)

/-- A page of a listing. -/
def list (limit : Nat) (f : Filter) (position : Position) (s : Store) : List Record :=
  (f.page (fun _ => true) limit position s.slots).map Row.record

/-- How many rows a filter lets through. -/
def count (f : Filter) (s : Store) : Nat :=
  (s.slots.filter f.predicate.selects).length

/-- How many slots are active. -/
def countActive (s : Store) : Nat :=
  s.count {}

end Store

end Pasteboard
