import Pasteboard.Listing.Cursor
import Pasteboard.Text.Bytes
/-!
Slots as they are stored, and as clients see them.

A row keeps every column, each of which may be empty by itself; the constraint `Row.check` says
which combinations may be stored. A record is what a listing shows of a row.
-/

namespace Pasteboard

/-- A file with its name and media type. -/
structure Upload where
  filename : String
  mime : String
  data : ByteArray
  deriving DecidableEq

/-- What a slot can be filled with. -/
inductive Payload
  | text (content : String)
  | file (upload : Upload)
  deriving DecidableEq

/-- A stored row. -/
structure Row where
  id : Int
  content : Option String
  isFile : Bool
  filename : Option String
  mime : Option String
  blob : Option ByteArray
  createdAt : Option Int
  updatedAt : Option Int
  revision : Int
  isActive : Bool
  deriving DecidableEq

/-- The constraint on rows: an inactive row has no payload, an active one has all the columns of
its kind and none of the other kind. -/
def Row.check (r : Row) : Bool :=
  match r.isActive, r.isFile with
  | false, _ => r.content.isNone && r.blob.isNone && r.filename.isNone && r.mime.isNone
  | true, false => r.content.isSome && r.blob.isNone && r.filename.isNone && r.mime.isNone
  | true, true => r.content.isNone && r.blob.isSome && r.filename.isSome && r.mime.isSome

/-- The row that is stored before its payload is. -/
def Row.fresh (id : Int) : Row :=
  ⟨id, none, false, none, none, none, none, none, 0, false⟩

/-- Puts a payload into the columns of a row. -/
def Row.withPayload (r : Row) : Payload → Row
  | .text content =>
    { r with content := some content, isFile := false, filename := none, mime := none, blob := none }
  | .file upload =>
    { r with content := none, isFile := true, filename := some upload.filename,
             mime := some upload.mime, blob := some upload.data }

/-- Makes a row inactive and empties its payload columns. -/
def Row.retired (r : Row) : Row :=
  { r with isActive := false, content := none, blob := none, filename := none, mime := none }

/-- An active text row. -/
def Row.isActiveText (r : Row) : Bool :=
  r.isActive && !r.isFile

/-- An active file row. -/
def Row.isActiveFile (r : Row) : Bool :=
  r.isActive && r.isFile

/-- What a record shows of a payload. -/
inductive Body
  | text (content : String)
  | file (filename mime : String) (size : Nat)
  | empty
  deriving DecidableEq, Repr

/-- What a listing shows of a row. -/
structure Record where
  id : Int
  body : Body
  createdAt : Int
  updatedAt : Option Int
  revision : Int
  isActive : Bool
  deriving DecidableEq, Repr

/-- Whether a record shows a file; an inactive one does not. -/
def Record.isFile (r : Record) : Bool :=
  match r.body with
  | .file _ _ _ => true
  | _ => false

/-- The place of a record in listings. -/
def Record.cursor (r : Record) : Cursor :=
  ⟨r.createdAt, r.id⟩

/-- The body that a record of the row shows. -/
def Row.body (r : Row) : Body :=
  match r.isActive, r.isFile with
  | false, _ => .empty
  | true, false => .text (r.content.getD "")
  | true, true => .file (r.filename.getD "") (r.mime.getD "") ((r.blob.map ByteArray.size).getD 0)

/-- The record of a row. -/
def Row.record (r : Row) : Record :=
  ⟨r.id, r.body, r.createdAt.getD 0, r.updatedAt, r.revision, r.isActive⟩

end Pasteboard
