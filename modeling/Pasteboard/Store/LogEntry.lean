import Pasteboard.Slot.Row
import Pasteboard.Text.LineDiff
import Pasteboard.Text.Sha256
/-!
The log of overwrites.

A replacement of a slot leaves an entry that describes the payload before and after it by digests
and sizes. The text before is kept whole, with the lines that the replacement changed, so that it
can be restored. An entry names the key and the address that asked for the replacement.
-/

namespace Pasteboard

open Pasteboard.Text

/-- Who asked for a replacement. -/
structure Actor where
  keyId : Option Int := none
  fromIp : Option String := none
  deriving DecidableEq, Repr

/-- An entry of the log. -/
structure LogEntry where
  id : Int
  slotId : Int
  time : Int
  byKeyId : Option Int
  fromIp : Option String
  action : String
  fields : String
  excerptBefore : Option String
  textHashBefore : Option String
  textHashAfter : Option String
  textSizeBefore : Option Nat
  textSizeAfter : Option Nat
  fileHashBefore : Option String
  fileHashAfter : Option String
  fileSizeBefore : Option Nat
  fileSizeAfter : Option Nat
  mimeBefore : Option String
  mimeAfter : Option String
  filenameBefore : Option String
  filenameAfter : Option String
  contentBefore : Option String
  patch : Option String
  deriving DecidableEq, Repr

namespace LogEntry

/-- The bytes of a text that an excerpt shows. -/
def excerptBytes : Nat := 200

/-- The bytes of the changed lines that an entry keeps. -/
def patchBytes : Nat := 4096

/-- The text that a row shows, if it is an active text. -/
def textOf (r : Row) : Option String :=
  if r.isActiveText then r.content else none

/-- The data that a row shows, if it is an active file. -/
def dataOf (r : Row) : Option ByteArray :=
  if r.isActiveFile then r.blob else none

/-- The text of a payload. -/
def textIn : Payload → Option String
  | .text content => some content
  | .file _ => none

/-- The file of a payload. -/
def fileIn : Payload → Option Upload
  | .text _ => none
  | .file upload => some upload

/-- The columns that a payload is written to. -/
def fieldsOf : Payload → String
  | .text _ => "[\"content\"]"
  | .file _ => "[\"content_blob\",\"mime\",\"filename\"]"

/-- The lines that a replacement of a text by a text changed. -/
def patchOf (before after : Option String) : Option String :=
  match before, after with
  | some old, some new => some (LineDiff.excerpt old new patchBytes)
  | _, _ => none

/-- The entry for a replacement of a row by a payload. -/
def ofReplacement (id : Int) (time : Int) (before : Row) (after : Payload) (actor : Actor) :
    LogEntry :=
  let text := textOf before
  let data := dataOf before
  let newText := textIn after
  let newFile := fileIn after
  { id, slotId := before.id, time, byKeyId := actor.keyId, fromIp := actor.fromIp
    action := "update"
    fields := fieldsOf after
    excerptBefore := text.map (clip excerptBytes)
    textHashBefore := text.map Sha256.hexOfText
    textHashAfter := newText.map Sha256.hexOfText
    textSizeBefore := text.map String.utf8ByteSize
    textSizeAfter := newText.map String.utf8ByteSize
    fileHashBefore := data.map Sha256.hex
    fileHashAfter := newFile.map fun f => Sha256.hex f.data
    fileSizeBefore := data.map ByteArray.size
    fileSizeAfter := newFile.map fun f => f.data.size
    mimeBefore := if before.isActive then before.mime else none
    mimeAfter := newFile.map Upload.mime
    filenameBefore := if before.isActive then before.filename else none
    filenameAfter := newFile.map Upload.filename
    contentBefore := text
    patch := patchOf text newText }

end LogEntry

end Pasteboard
