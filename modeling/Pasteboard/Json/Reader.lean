import Pasteboard.Json.Token
/-!
Reading a JSON value.

The tokens are read from left to right against a stack of the arrays and objects that are open.
Nesting deeper than 127 is refused, and so is anything after the value.

An object whose first member has a certain name is no object: it has that member alone, a string,
and stands for the value which the string denotes as a text of its own.
-/

namespace Pasteboard.Json

/-- An array or object that is open: its items in reverse order, or its members so far and the name
of the member under way, or the value for which an object stands. -/
inductive Frame
  | array (items : List Json)
  | object (members : List (String × Json)) (name : String)
  | standIn (value : Option Json)

/-- What may come next. -/
inductive Expect
  | value
  | valueOrClose
  | name
  | nameOrClose
  | colon
  | next
  | nothing

/-- The reader's state: what may come next, what is open, and the value once it is complete. -/
structure Reading where
  expect : Expect
  stack : List Frame
  result : Option Json

/-- The state before the first token. -/
def Reading.start : Reading := ⟨.value, [], none⟩

/-- The deepest nesting that is read. -/
def maxDepth : Nat := 127

/-- The name of a first member that makes an object stand for the value in its text. -/
def standInName : String := "$serde_json::private::RawValue"

/-- A value is complete: it goes into the innermost frame, or is the result. -/
def Reading.complete (v : Json) : List Frame → Reading
  | [] => ⟨.nothing, [], some v⟩
  | .array items :: rest => ⟨.next, .array (v :: items) :: rest, none⟩
  | .object members name :: rest => ⟨.next, .object (Named.put members name v) "" :: rest, none⟩
  | .standIn _ :: rest => ⟨.next, .standIn (some v) :: rest, none⟩

/-- A token where any value may start. -/
def Reading.beginAny (r : Reading) : Token → Option Reading
  | .null => some (Reading.complete .null r.stack)
  | .bool b => some (Reading.complete (.bool b) r.stack)
  | .num (some n) => some (Reading.complete (.num n) r.stack)
  | .str (some s) => some (Reading.complete (.str s) r.stack)
  | .openArray =>
    if r.stack.length < maxDepth then some ⟨.valueOrClose, .array [] :: r.stack, none⟩ else none
  | .openObject =>
    if r.stack.length < maxDepth then some ⟨.nameOrClose, .object [] "" :: r.stack, none⟩ else none
  | _ => none

/-- A token where the text of another value must stand, which `inner` reads. -/
def Reading.beginText (inner : String → Option Json) (r : Reading) : Token → Option Reading
  | .str (some s) => (inner s).map fun v => Reading.complete v r.stack
  | _ => none

/-- A token where a value may start. -/
def Reading.beginValue (inner : String → Option Json) (r : Reading) (t : Token) :
    Option Reading :=
  match r.stack with
  | .standIn _ :: _ => r.beginText inner t
  | _ => r.beginAny t

/-- A token where the innermost frame may close. -/
def Reading.close (r : Reading) : Token → Option Reading
  | .closeArray =>
    match r.stack with
    | .array items :: rest => some (Reading.complete (.arr items.reverse) rest)
    | _ => none
  | .closeObject =>
    match r.stack with
    | .object members _ :: rest => some (Reading.complete (.obj members) rest)
    | .standIn (some v) :: rest => some (Reading.complete v rest)
    | _ => none
  | _ => none

/-- A token where the name of a member must stand. -/
def Reading.memberName (r : Reading) : Token → Option Reading
  | .str (some s) =>
    match r.stack with
    | .object members _ :: rest => some ⟨.colon, .object members s :: rest, none⟩
    | _ => none
  | _ => none

/-- A token where the name of a first member must stand. -/
def Reading.firstName (r : Reading) (t : Token) : Option Reading :=
  if t = .str (some standInName) then some ⟨.colon, .standIn none :: r.stack.drop 1, none⟩
  else r.memberName t

/-- One more token; `inner` reads the texts within. -/
def Reading.step (inner : String → Option Json) (r : Reading) (t : Token) : Option Reading :=
  match r.expect with
  | .value => r.beginValue inner t
  | .valueOrClose => if t = .closeArray then r.close t else r.beginValue inner t
  | .name => r.memberName t
  | .nameOrClose => if t = .closeObject then r.close t else r.firstName t
  | .colon => if t = .colon then some ⟨.value, r.stack, none⟩ else none
  | .next =>
    if t = .comma then
      match r.stack with
      | .array _ :: _ => some ⟨.value, r.stack, none⟩
      | .object _ _ :: _ => some ⟨.name, r.stack, none⟩
      | _ => none
    else r.close t
  | .nothing => none

/-- Reads tokens from a state on; the text must end when the value is complete. -/
def Reading.run (inner : String → Option Json) (r : Reading) : List Token → Option Json
  | [] => r.result
  | t :: ts =>
    match r.step inner t with
    | some r => r.run inner ts
    | none => none

/-- The value that a text denotes, whose texts within texts go no deeper than the fuel. -/
def readWithin : Nat → ByteArray → Option Json
  | 0, _ => none
  | fuel + 1, bytes =>
    Reading.start.run (fun s => readWithin fuel s.toUTF8) (tokens bytes.toList)

/-- The value that a JSON text in UTF-8 denotes. A text within it is shorter than it is. -/
def read? (bytes : ByteArray) : Option Json :=
  readWithin (bytes.size + 1) bytes

end Pasteboard.Json
