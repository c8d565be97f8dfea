import Pasteboard.Text.Bytes
import Pasteboard.Text.Letter
/-!
Header lines of a message.

The value of a line is a string of bytes. It is readable as text only if every byte is a tab or a
visible ASCII character; the first line of a name stands for the name.
-/

namespace Pasteboard.Http

/-- A header line: its name in lower case and its value. -/
structure Header where
  name : String
  value : ByteArray
  deriving DecidableEq

/-- A header line from texts. -/
def Header.of (name value : String) : Header :=
  ⟨Text.lower name, value.toUTF8⟩

/-- A header line from the ASCII bytes of its name and the bytes of its value. -/
def Header.ofBytes (name value : List UInt8) : Header :=
  ⟨Text.lower (String.ofList (name.map fun b => Char.ofNat b.toNat)), ⟨value.toArray⟩⟩

/-- Tabs, spaces and visible ASCII characters. -/
def isReadable (b : UInt8) : Bool :=
  b == 9 || (32 ≤ b && b < 127)

/-- The text of a value, if it is readable. -/
def readable? (value : ByteArray) : Option String :=
  let bytes := value.toList
  if bytes.all isReadable then some (String.ofList (bytes.map fun b => Char.ofNat b.toNat)) else none

/-- The text of the first line of a name, if there is one and it is readable. -/
def headerText? (headers : List Header) (name : String) : Option String :=
  (headers.find? (·.name == name)).bind fun h => readable? h.value

/-- The trimmed text of the first line of a name, if it is readable and not blank. -/
def headerWord? (headers : List Header) (name : String) : Option String :=
  (headerText? headers name).bind Text.trimmed?

/-- Bytes of the value of a header line: no control character but the tab. -/
def isValueByte (b : UInt8) : Bool :=
  b == 9 || (32 ≤ b && b != 127)

/-- Whether a text may be the value of a header line: whether its bytes may. -/
def isHeaderValue (s : String) : Bool :=
  s.toUTF8.toList.all isValueByte

end Pasteboard.Http
