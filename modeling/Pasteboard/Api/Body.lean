import Pasteboard.Api.Envelope
import Pasteboard.Http.Multipart
import Pasteboard.Json.Reader
import Pasteboard.Json.Record
/-!
The bodies of requests that write slots: a JSON value, or a form with a file.

The content type decides which it is. A body larger than the settings allow is not read.
-/

namespace Pasteboard.Api

open Pasteboard.Http

/-- The first file of a form, and all its text fields. -/
structure UploadForm where
  data : Option ByteArray := none
  partMime : Option String := none
  partFilename : Option String := none
  fields : Params := []

namespace UploadForm

/-- A field of the form, else a parameter of the target; blank values count as absent. -/
def word? (f : UploadForm) (params : Params) (name : String) : Option String :=
  ((f.fields.lookup name).or (params.lookup name)).bind Text.trimmed?

/-- Adds a part. A part is a file if it is named so or has the name of a file. -/
def add (f : UploadForm) (p : Multipart.Part) : UploadForm :=
  let name := p.name.getD ""
  if name == "file" || p.filename.isSome then
    if f.data.isNone then
      { f with
        data := some ⟨p.data.toArray⟩
        partMime := p.mediaType.map (·.text)
        partFilename := p.filename }
    else f
  else { f with fields := Named.put f.fields name p.text }

/-- The form with the given parts. -/
def ofParts (parts : List Multipart.Part) : UploadForm :=
  parts.foldl add {}

end UploadForm

/-- The body of a request that writes a slot. -/
inductive WriteBody
  | json (value : Json)
  | form (f : UploadForm)

/-- The content type of a request in ASCII lower case; empty if it is unreadable. -/
def contentKind (r : Request) : String :=
  Text.lower ((headerText? r.headers "content-type").getD "")

/-- Whether the body is larger than the settings allow. -/
def isOversized (s : Settings) (r : Request) : Bool :=
  s.bodyLimit < r.body.size

/-- Reads the parts of a form; its boundary is examined before its size. -/
def readForm (s : Settings) (r : Request) : Except Response UploadForm :=
  match (headerText? r.headers "content-type").bind Multipart.boundary? with
  | none => .error (invalid "Multipart parse error")
  | some boundary =>
    if isOversized s r then .error (failure .size "File too large")
    else
      match Multipart.parts? boundary r.body with
      | some parts => .ok (UploadForm.ofParts parts)
      | none => .error (invalid "Multipart parse error")

/-- Reads the body of a request that writes a slot. -/
def readWriteBody (s : Settings) (r : Request) : Except Response WriteBody :=
  let kind := contentKind r
  if Text.startsWith kind "application/json" then
    if isOversized s r then .error (failure .size "Text too large")
    else
      match Json.read? r.body with
      | some value => .ok (.json value)
      | none => .error (invalid "JSON required")
  else if Text.startsWith kind "multipart/form-data" then (readForm s r).map .form
  else .error (failure .mime "Unsupported content-type")

/-- Reads a record from a JSON body. A request whose content type is not JSON, or whose body is too
large, is no JSON or has another shape, is refused without an envelope. -/
def readRecord (s : Settings) (r : Request) (fields : List Json.Record.Field) :
    Except Response (List Json.Record.Value) :=
  let isJson := ((headerText? r.headers "content-type").bind MediaType.read?).any (·.isJson)
  if !isJson then .error (.bare 415)
  else if isOversized s r then .error (.bare 413)
  else
    match Json.Record.read fields r.body with
    | .ok values => .ok values
    | .error .notJson => .error (.bare 400)
    | .error .wrongShape => .error (.bare 422)

end Pasteboard.Api
