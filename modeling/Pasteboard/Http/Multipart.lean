import Pasteboard.Http.Header
import Pasteboard.Http.MediaType
import Pasteboard.Text.Encoding
/-!
Forms of several parts.

Parts stand between lines that begin with two hyphens and the boundary; two more hyphens end the
form. A part has header lines, a blank line and its data. Its disposition holds the names of the
field and of the file. A form that breaks off, or a part whose header lines are none, makes the
whole form unreadable.
-/

namespace Pasteboard.Http.Multipart

open Pasteboard.Text

/-- A part of a form. -/
structure Part where
  name : Option String
  filename : Option String
  mediaType : Option MediaType
  data : List UInt8

/-- Two hyphens. -/
def hyphens : List UInt8 := [45, 45]

/-- The end of a line. -/
def lineEnd : List UInt8 := [13, 10]

/-- Splits bytes at the first place where `run` stands; `front` holds what came before, in reverse
order. -/
def splitAtRun (run front : List UInt8) : List UInt8 → Option (List UInt8 × List UInt8)
  | [] => if run.isEmpty then some (front.reverse, []) else none
  | b :: rest =>
    if run.isPrefixOf (b :: rest) then some (front.reverse, (b :: rest).drop run.length)
    else splitAtRun run (b :: front) rest

/-! ### Header lines of a part -/

/-- Spaces and tabs. -/
def isGap (b : UInt8) : Bool :=
  b == 32 || b == 9

/-- Bytes of the name of a line. -/
def isNameByte (b : UInt8) : Bool :=
  b < 128 && isTokenChar (Char.ofNat b.toNat)

/-- Drops the end of a line. -/
def pastLineEnd? : List UInt8 → Option (List UInt8)
  | 13 :: 10 :: rest => some rest
  | 10 :: rest => some rest
  | _ => none

/-- Reads a header line. -/
def headerLine? (bytes : List UInt8) : Option (Header × List UInt8) :=
  let name := bytes.takeWhile isNameByte
  match bytes.dropWhile isNameByte with
  | 58 :: rest =>
    if name.isEmpty then none
    else
      let rest := rest.dropWhile isGap
      let value := ((rest.takeWhile isValueByte).reverse.dropWhile isGap).reverse
      (pastLineEnd? (rest.dropWhile isValueByte)).map fun rest =>
        (Header.ofBytes name value, rest)
  | _ => none

/-- Reads header lines up to the blank line, at most as many as `fuel`; later lines come first. -/
def headerLines? (found : List Header) : Nat → List UInt8 → Option (List Header)
  | 0, bytes => (pastLineEnd? bytes).map fun _ => found
  | fuel + 1, bytes =>
    match pastLineEnd? bytes with
    | some _ => some found
    | none =>
      match headerLine? bytes with
      | some (header, rest) => headerLines? (header :: found) fuel rest
      | none => none

/-- The most header lines that a part may have. -/
def maxHeaders : Nat := 32

/-! ### Attributes of the disposition -/

/-- ASCII white space. -/
def isSpaceByte (b : UInt8) : Bool :=
  b == 32 || b == 9 || b == 10 || b == 12 || b == 13

/-- Drops white space and then the byte `b`, which must be there. -/
def pastByte? (b : UInt8) (bytes : List UInt8) : Option (List UInt8) :=
  match bytes.dropWhile isSpaceByte with
  | c :: rest => if c = b then some rest else none
  | [] => none

/-- What stands before the first quote that no backslash precedes; a quote behind a backslash stands
for itself without it. -/
def quoted? : List UInt8 → Option (List UInt8)
  | [] => none
  | 92 :: 34 :: rest => (quoted? rest).map (34 :: ·)
  | b :: rest => if b = 34 then some [] else (quoted? rest).map (b :: ·)

/-- The value that follows the name of an attribute. -/
def attributeValue? (bytes : List UInt8) : Option String := do
  let bytes ← pastByte? 61 bytes
  let value ← match pastByte? 34 bytes with
    | some rest => quoted? rest
    | none => some ((bytes.dropWhile isSpaceByte).takeWhile fun b => b != 59 && b != 32)
  String.fromUTF8? ⟨value.toArray⟩

/-- The value of an attribute. Its name stands at the start, or after white space or a semicolon;
the search goes on behind a name that stands elsewhere. `skip` counts bytes to go past, and `before`
says whether the name may stand here. -/
def attributeFrom? (name : List UInt8) (skip : Nat) (before : Bool) : List UInt8 → Option String
  | [] => none
  | b :: rest =>
    match skip with
    | skip + 1 => attributeFrom? name skip (skip == 0) rest
    | 0 =>
      if name.isPrefixOf (b :: rest) then
        if before then attributeValue? ((b :: rest).drop name.length)
        else attributeFrom? name (name.length - 1) (name.length == 1) rest
      else attributeFrom? name 0 (isSpaceByte b || b == 59) rest

/-- The value of an attribute of a disposition. -/
def attribute? (name : String) (disposition : List UInt8) : Option String :=
  attributeFrom? name.toUTF8.toList 0 true disposition

/-! ### Parts -/

/-- The part with the given header lines and data. -/
def Part.of (headers : List Header) (data : List UInt8) : Part :=
  let disposition := (headers.find? (·.name == "content-disposition")).map (·.value.toList)
  { name := disposition.bind (attribute? "name")
    filename := disposition.bind (attribute? "filename")
    mediaType := (headerText? headers "content-type").bind MediaType.read?
    data }

/-- The data of a part as text. -/
def Part.text (p : Part) : String :=
  let label := (p.mediaType.bind (·.param? "charset")).getD "utf-8"
  (Encoding.ofLabel label).text p.data

/-- Drops the gap and the end of line that follow a boundary. -/
def afterBoundary? (bytes : List UInt8) : Option (List UInt8) :=
  match bytes.dropWhile isGap with
  | 13 :: 10 :: rest => some rest
  | _ => none

/-- Reads one part after its boundary: the part and what follows the next boundary. -/
def part? (boundary : List UInt8) (bytes : List UInt8) : Option (Part × List UInt8) := do
  let bytes ← afterBoundary? bytes
  let (block, bytes) ← splitAtRun (lineEnd ++ lineEnd) [] bytes
  let headers ← headerLines? [] maxHeaders (block ++ lineEnd ++ lineEnd)
  let (data, bytes) ← splitAtRun (lineEnd ++ hyphens ++ boundary) [] bytes
  return (Part.of headers data, bytes)

/-- Reads parts after a boundary up to the end of the form. Each takes at least the bytes of its
boundary, so the fuel is the number of bytes. -/
def partsFrom? (boundary : List UInt8) (found : List Part) : Nat → List UInt8 → Option (List Part)
  | 0, _ => none
  | fuel + 1, bytes =>
    if hyphens.isPrefixOf bytes then some found.reverse
    else
      match part? boundary bytes with
      | some (p, rest) => partsFrom? boundary (p :: found) fuel rest
      | none => none

/-- The parts of a form. What stands before the first boundary is skipped. -/
def parts? (boundary : String) (body : ByteArray) : Option (List Part) :=
  let boundary := boundary.toUTF8.toList
  match splitAtRun (hyphens ++ boundary) [] body.toList with
  | some (_, rest) => partsFrom? boundary [] (body.size + 1) rest
  | none => none

/-- The boundary that a content type gives for a form. -/
def boundary? (contentType : String) : Option String := do
  let m ← MediaType.read? contentType
  if m.kind == "multipart" && m.subtype == "form-data" then m.param? "boundary" else none

end Pasteboard.Http.Multipart
