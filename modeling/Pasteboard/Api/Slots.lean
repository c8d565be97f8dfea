import Pasteboard.Api.Body
import Pasteboard.Board.Slots
/-!
The endpoints for slots: reading, writing, restoring, searching, and the state of the service.
-/

namespace Pasteboard.Api

open Pasteboard.Http
open Pasteboard.Text

/-! ### Records and parameters -/

/-- What is shown of the body of a record. -/
def bodyMembers : Body → List (String × Json)
  | .text content => [("content", .str content)]
  | .file filename mime size =>
    [("filename", .str filename), ("mime", .str mime), ("size", .nat size)]
  | .empty => []

/-- A record as a value. -/
def recordJson (r : Record) : Json :=
  .obj ([("id", .int r.id), ("is_file", .bool r.isFile), ("created_at", .int r.createdAt),
    ("updated_at", .opt .int r.updatedAt), ("revision", .int r.revision),
    ("is_active", .bool r.isActive)] ++ bodyMembers r.body)

/-- Records as a value. -/
def recordsJson (rs : List Record) : Json :=
  .arr (rs.map recordJson)

/-- The id that parameters give; it must be there and positive. -/
def requiredId (params : Params) : Except Response Int :=
  match params.word? "id" with
  | none => .error (invalid "Id required")
  | some raw =>
    match Numeral.read? Numeral.int64 raw with
    | some id => if 0 < id then .ok id else .error (invalid "Invalid id")
    | none => .error (invalid "Invalid id")

/-- The order that a parameter gives: newest first if there is none. -/
def orderOf : Option String → Except Response Order
  | none => .ok .desc
  | some raw =>
    match Order.read? raw with
    | some order => .ok order
    | none => .error (badQuery "Invalid order" (some "expected asc or desc"))

/-- The kind of slots that a parameter asks for. -/
def kindOf : Option String → Option Bool
  | some "text" => some false
  | some "file" => some true
  | _ => none

/-- The actor behind a request. -/
def actorOf (v : Gate.Visitor) : Actor :=
  ⟨v.keyId, some v.clientIp⟩

/-- The number of slots that may be active. -/
def capacityOf (s : Settings) : Capacity :=
  Capacity.of s.limits.slots

/-! ### Reading a slot -/

/-- What a request for a slot asks for. -/
structure SlotQuery where
  id : Option Int := none
  download : Bool := false
  asJson : Bool := false
  deriving DecidableEq, Repr

/-- Takes one parameter into account; `params` are all of them. -/
def SlotQuery.take (params : Params) (q : SlotQuery) (p : String × String) :
    Except Response SlotQuery :=
  match p.1 with
  | "id" => (requiredId params).map fun id => { q with id := some id }
  | "as" => .ok { q with download := p.2 == "download" }
  | "json" => .ok { q with asJson := p.2 == "true" }
  | "api_key" => .ok q
  | _ => .error (failure .query "Unsupported query on root path")

/-- Reads the parameters of a request for a slot, in their order. -/
def SlotQuery.read (params : Params) : Except Response SlotQuery :=
  params.foldlM (SlotQuery.take params) {}

/-- The record that is asked for: that of an id, else the newest one. -/
def askedRecord (id : Option Int) : Action Record := do
  match id with
  | some id => Board.getSlot id
  | none =>
    match ← Board.latestId with
    | some id => Board.getSlot id
    | none => throw .notFound

/-- The content type of a file: its media type, if a header line can hold it. -/
def fileType (mime : String) : String :=
  if isHeaderValue mime then mime else "application/octet-stream"

/-- The answer with a text. -/
def textAnswer (content : String) : Response where
  status := 200
  contentType := some "text/plain; charset=utf-8"
  content := .text content

/-- The answer with a file. -/
def fileAnswer (download : Bool) (f : Upload) : Response where
  status := 200
  contentType := some (fileType f.mime)
  disposition := some (contentDisposition (if download then "attachment" else "inline") f.filename)
  content := .bytes f.data

/-- Answers with a slot: its record, its text or its file. -/
def getSlot (params : Params) : Handler Response := do
  let q ← Handler.of (SlotQuery.read params)
  let record ← act (askedRecord q.id) fun e =>
    if e = .notFound ∧ q.id.isNone then missing "No content" else storeFailure e
  if q.asJson then return ok (.arr [recordJson record])
  match record.body with
  | .text content => return textAnswer content
  | _ =>
    let file ← act (Board.getFile record.id) fun e =>
      if e = .notFound then missing "File not found" else storeFailure e
    return fileAnswer q.download file

/-! ### Writing a slot -/

/-- Media types that may be stored: images and sound. -/
def isAllowedMime (mime : String) : Bool :=
  let m := keyword mime
  startsWith m "image/" || startsWith m "audio/"

/-- A text that is not too large. -/
def checkText (s : Settings) (content : String) : Except Response Unit :=
  if s.limits.textBytes < content.utf8ByteSize then .error (failure .size "Text too large")
  else .ok ()

/-- Data that are not too large. -/
def checkData (s : Settings) (data : ByteArray) : Except Response Unit :=
  if s.limits.fileBytes < data.size then .error (failure .size "File too large") else .ok ()

/-- A media type that may be stored. -/
def checkMime (mime : String) : Except Response Unit :=
  if isAllowedMime mime then .ok () else .error (failure .mime "Unsupported media type")

/-- The text of a JSON body. -/
def requiredText (s : Settings) (body : Json) : Except Response String :=
  match (body.member? "content").bind Json.text? with
  | none => .error (invalid "Content required")
  | some content => (checkText s content).map fun _ => content

/-- The file of a form. -/
def requiredUpload (s : Settings) (params : Params) (f : UploadForm) : Except Response Upload := do
  let mime := ((f.word? params "mime").or f.partMime).getD "application/octet-stream"
  let filename := ((f.word? params "filename").or f.partFilename).getD "upload"
  match f.data with
  | none => throw (invalid "File required")
  | some data =>
    checkMime mime
    checkData s data
    return ⟨filename, mime, data⟩

/-- The payload of a body. -/
def payloadOf (s : Settings) (params : Params) : WriteBody → Except Response Payload
  | .json body => (requiredText s body).map .text
  | .form f => (requiredUpload s params f).map .file

/-- Stores a new slot. -/
def postSlot (s : Settings) (r : Request) (params : Params) : Handler Response := do
  let body ← Handler.of (readWriteBody s r)
  let payload ← Handler.of (payloadOf s params body)
  let id ← act (Board.allocate (capacityOf s) payload)
  return created id

/-- The answer that names the slot that was written. -/
def written (id : Int) : Response :=
  ok (.obj [("id", .int id)])

/-- Replaces a slot. -/
def putSlot (s : Settings) (r : Request) (params : Params) (actor : Actor) : Handler Response := do
  let id ← Handler.of (requiredId params)
  let body ← Handler.of (readWriteBody s r)
  let payload ← Handler.of (payloadOf s params body)
  act (Board.update (capacityOf s) id payload actor) fun e =>
    if e = .notFound then missing "Update failed" else storeFailure e
  return written id

/-- The text of a patch, if it has one. -/
def patchedText (s : Settings) (body : Json) : Except Response (Option String) :=
  match body.member? "content" with
  | none => .ok none
  | some .null => .ok none
  | some (.str content) => (checkText s content).map fun _ => some content
  | some _ => .error (invalid "Content must be a string")

/-- The fields of a file that a form patches. -/
def patchedFields (s : Settings) (params : Params) (f : UploadForm) :
    Except Response Store.FilePatch := do
  match f.data with
  | some data => checkData s data
  | none => pure ()
  let mime := f.word? params "mime"
  match mime with
  | some mime => checkMime mime
  | none => pure ()
  return ⟨f.word? params "filename", mime, f.data⟩

/-- The answer for a patch that fails. -/
def patchFailure : StoreError → Response
  | .conflict _ => failure .conflict "Patch failed"
  | .notFound => failure .conflict "Patch failed"
  | e => storeFailure e

/-- Patches a slot. -/
def patchSlot (s : Settings) (r : Request) (params : Params) (actor : Actor) :
    Handler Response := do
  let id ← Handler.of (requiredId params)
  match ← Handler.of (readWriteBody s r) with
  | .json body =>
    let content ← Handler.of (patchedText s body)
    act (Board.patchText (capacityOf s) id content actor) patchFailure
  | .form f =>
    let patch ← Handler.of (patchedFields s params f)
    act (Board.patchFile (capacityOf s) id patch actor) patchFailure
  return written id

/-- Deletes a slot. -/
def deleteSlot (params : Params) : Handler Response := do
  let id ← Handler.of (requiredId params)
  act (Board.delete id)
  return .bare 204

/-- Puts the text back that the latest replacement overwrote. -/
def restoreSlot (s : Settings) (params : Params) (actor : Actor) : Handler Response := do
  let id ← Handler.of (requiredId params)
  act (Board.restore (capacityOf s) id actor)
  return written id

/-! ### Searching -/

/-- The text that a member of a JSON body gives for a parameter. -/
def paramText : Json → Option String
  | .str s => some s
  | .num n => some n.text
  | .bool b => some (if b then "true" else "false")
  | _ => none

/-- The parameters of the target with those of a JSON body, which go before. -/
def mergedParams (query : Params) : Option Json → Params
  | some (.obj members) =>
    Named.putAll query (members.filterMap fun (name, v) => (paramText v).map fun t => (name, t))
  | _ => query

/-- The size of a page: a number that is given, between one and the limit. -/
def pageSize (s : Settings) (raw : Option String) : Nat :=
  match raw.bind (Numeral.read? Numeral.int64) with
  | some n => (max 1 (min n s.limits.slots)).toNat
  | none => s.limits.slots

/-- The filter that parameters give. -/
def filterOf (includeInactive : Bool) (order : Order) (params : Params) : Filter where
  includeInactive
  isFile := kindOf (params.word? "type")
  mime := params.word? "mime"
  filename := params.word? "filename"
  order

/-- Where the page starts that parameters ask for. A cursor goes before an offset. -/
def positionOf (params : Params) : Except Response Position :=
  match params.word? "cursor", params.word? "offset" with
  | some raw, _ =>
    match Cursor.read raw with
    | .ok c => .ok (.after c)
    | .error fault => .error (badQuery "Invalid cursor" (some fault.message))
  | none, some raw =>
    match Numeral.read? Numeral.nat64 raw with
    | some n => .ok (.offset n.toNat)
    | none => .error (badQuery "Invalid offset" (some "expected a non-negative integer"))
  | none, none => .ok (.offset 0)

/-- What a search asks for. -/
structure SearchQuery where
  text : Option String
  limit : Nat
  filter : Filter
  position : Position
  deriving DecidableEq, Repr

/-- Reads the parameters of a search. -/
def SearchQuery.read (s : Settings) (params : Params) : Except Response SearchQuery := do
  let order ← orderOf (params.word? "order")
  let position ← positionOf params
  return ⟨params.word? "q", pageSize s (params.word? "limit"), filterOf false order params, position⟩

/-- What was found: a page, the number of all rows, and the engine if there was a text. -/
def found (s : Settings) (q : SearchQuery) : Action (List Record × Nat × Option Engine) := do
  match q.text with
  | some text =>
    let f ← Board.search s.fallback text q.limit q.filter q.position
    return (f.records, f.total, some f.engine)
  | none =>
    let records ← Board.list q.limit q.filter q.position
    let total ← Board.count q.filter
    return (records, total, none)

/-- The cursor of the next page: that of the last record of a full page. -/
def nextCursor (limit : Nat) (records : List Record) : Option String :=
  if records.length = limit then records.getLast?.map fun r => r.cursor.text else none

/-- The answer with a page of a search. -/
def pageAnswer (limit : Nat) (records : List Record) (total : Nat) (engine : Option Engine) :
    Response :=
  let used := match engine with
    | some e => [("engine", Json.str e.name)]
    | none => []
  success 200 (recordsJson records) (some (.obj ([("count", .nat records.length),
    ("limit", .nat limit), ("total", .nat total),
    ("has_more", .bool (records.length == limit)),
    ("next_cursor", .opt .str (nextCursor limit records))] ++ used)))

/-- Searches by parameters. -/
def search (s : Settings) (params : Params) : Handler Response := do
  let q ← Handler.of (SearchQuery.read s params)
  let (records, total, engine) ← act (found s q)
  return pageAnswer q.limit records total engine

/-- The JSON value in the body of a search, if the body is JSON and not empty. -/
def searchBody (s : Settings) (r : Request) : Except Response (Option Json) :=
  if isOversized s r then .error (.bare 413)
  else if startsWith (contentKind r) "application/json" && !r.body.isEmpty then
    match Json.read? r.body with
    | some value => .ok (some value)
    | none => .error (invalid "Invalid JSON body")
  else .ok none

/-- Searches by parameters in the target and in the body. -/
def searchByBody (s : Settings) (r : Request) (params : Params) : Handler Response := do
  let body ← Handler.of (searchBody s r)
  search s (mergedParams params body)

/-! ### Health -/

/-- The version of the service. -/
def version : String := "0.1.0"

/-- The limits of sizes. -/
def sizesJson (s : Settings) : Json :=
  .obj [("max_file_bytes", .nat s.limits.fileBytes), ("max_text_bytes", .nat s.limits.textBytes),
    ("hard_file_bytes", .nat Limit.fileBytes.ceiling),
    ("hard_text_bytes", .nat Limit.textBytes.ceiling), ("request_body_limit", .nat s.bodyLimit)]

/-- Answers with the state of the service, which has been up for a number of seconds. -/
def health (s : Settings) (uptime : Nat) : Handler Response := do
  let fullText ← act Board.hasIndex
  let active ← act Board.countActive
  return .ofJson 200 (.obj [("status", .str "ok"), ("version", .str version),
    ("db_path", .str (s.dataPath.getD Settings.defaultDataPath)),
    ("limit_build", .nat Limit.slots.ceiling), ("limit_runtime", .nat s.limits.slots),
    ("limit_max", .nat Limit.slots.ceiling), ("sizes", sizesJson s),
    ("base_path", .str s.basePath), ("fts", .bool fullText), ("active_count", .nat active),
    ("uptime_seconds", .nat uptime)])

end Pasteboard.Api
