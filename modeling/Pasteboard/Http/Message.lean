import Pasteboard.Http.Header
import Pasteboard.Http.Params
import Pasteboard.Json.Value
import Pasteboard.Net.Address
/-!
Requests and responses.
-/

namespace Pasteboard.Http

/-- A request. -/
structure Request where
  method : String
  target : Target
  headers : List Header
  body : ByteArray
  /-- The address that the connection comes from. -/
  peer : Net.Address
  /-- The seconds that the service had been up when the request came. -/
  uptime : Nat := 0

/-- The body of a response. -/
inductive Content
  | empty
  | json (value : Json)
  | text (s : String)
  | bytes (data : ByteArray)

/-- A response. -/
structure Response where
  status : Nat
  contentType : Option String := none
  disposition : Option String := none
  content : Content := .empty

namespace Response

/-- A response without a body. -/
def bare (status : Nat) : Response :=
  { status }

/-- A response whose body is a JSON value. -/
def ofJson (status : Nat) (value : Json) : Response :=
  { status, contentType := some "application/json", content := .json value }

/-- The response without its body. -/
def withoutBody (r : Response) : Response :=
  { r with content := .empty }

end Response

/-- A character of a name in quotes: `_` stands in the place of a quote, a backslash and a control
character. -/
def masked (c : Char) : Char :=
  if c == '"' || c == '\\' || Text.isControl c then '_' else c

/-- The value of the disposition of a file: its kind, and the name of the file in quotes. -/
def contentDisposition (kind filename : String) : String :=
  let value := kind ++ "; filename=\"" ++ String.ofList (filename.toList.map masked) ++ "\""
  if isHeaderValue value then value else "attachment"

end Pasteboard.Http
