import Pasteboard.Json.Token
/-!
Reading a record of named fields from a JSON text.

A record is an object whose members are the fields, in any order, or an array with one item for
each field. Members of other names are skipped whatever they hold. A text fails in one of two
ways: it is not JSON as far as it was read, or it is JSON of the wrong shape; the fault that comes
first in the text decides. What follows the record is not looked at.
-/

namespace Pasteboard.Json.Record

/-- The kinds of fields. -/
inductive Kind
  | text
  | optionalText
  | optionalBool
  deriving DecidableEq, Repr

/-- What a field holds. -/
inductive Value
  | absent
  | text (s : String)
  | bool (b : Bool)
  deriving DecidableEq, Repr

/-- Why a text is no record. -/
inductive Fault
  | notJson
  | wrongShape
  deriving DecidableEq, Repr

/-- A field: its name and its kind. -/
abbrev Field := String × Kind

/-- The tokens of scalars that denote a value. -/
def isScalar : Token → Bool
  | .null | .bool _ | .num (some _) | .str (some _) => true
  | _ => false

/-- The fault of a token that starts no value of the wanted kind. -/
def faultAt : Token → Fault
  | .openArray | .openObject => .wrongShape
  | t => if isScalar t then .wrongShape else .notJson

/-- The value of a field from the tokens that start with it. -/
def fieldValue (kind : Kind) : List Token → Except Fault (Value × List Token)
  | [] => .error .notJson
  | t :: rest =>
    match kind, t with
    | .text, .str (some s) => .ok (.text s, rest)
    | .optionalText, .str (some s) => .ok (.text s, rest)
    | .optionalBool, .bool b => .ok (.bool b, rest)
    | .optionalText, .null => .ok (.absent, rest)
    | .optionalBool, .null => .ok (.absent, rest)
    | _, t => .error (faultAt t)

/-- What is open while a value is skipped, and what may come next. -/
inductive Skip
  | value
  | valueOrClose
  | name
  | nameOrClose
  | colon
  | next
  deriving DecidableEq

/-- Skips a value: `stack` says for each open bracket whether it is an object. -/
def skip (expect : Skip) (stack : List Bool) : List Token → Option (List Token)
  | [] => none
  | t :: rest =>
    let scalar (stack : List Bool) : Option (List Token) :=
      if stack.isEmpty then some rest else skip .next stack rest
    let beginValue : Option (List Token) :=
      match t with
      | .null | .bool _ | .num _ | .str _ => scalar stack
      | .openArray => skip .valueOrClose (false :: stack) rest
      | .openObject => skip .nameOrClose (true :: stack) rest
      | _ => none
    let close : Option (List Token) :=
      match t, stack with
      | .closeArray, false :: stack => scalar stack
      | .closeObject, true :: stack => scalar stack
      | _, _ => none
    let memberName : Option (List Token) :=
      match t with
      | .str _ => skip .colon stack rest
      | _ => none
    match expect with
    | .value => beginValue
    | .valueOrClose => if t = .closeArray then close else beginValue
    | .name => memberName
    | .nameOrClose => if t = .closeObject then close else memberName
    | .colon => if t = .colon then skip .value stack rest else none
    | .next =>
      if t = .comma then
        match stack with
        | false :: _ => skip .value stack rest
        | true :: _ => skip .name stack rest
        | [] => none
      else close

/-- The values of all fields from those that were found; a field of required text must be there. -/
def collect (fields : List Field) (found : List (String × Value)) : Except Fault (List Value) :=
  fields.mapM fun (name, kind) =>
    match found.lookup name, kind with
    | some v, _ => .ok v
    | none, .text => .error .wrongShape
    | none, _ => .ok .absent

/-- Reads members after `found`; `first` says that none was read yet. The fuel is the number of
tokens: every member takes at least two. -/
def members (fields : List Field) : Nat → Bool → List (String × Value) → List Token →
    Except Fault (List Value)
  | 0, _, _, _ => .error .notJson
  | fuel + 1, first, found, tokens =>
    let member : List Token → Except Fault (List Value)
      | .str (some name) :: rest =>
        match fields.lookup name with
        | some kind =>
          if (found.lookup name).isSome then .error .wrongShape
          else match rest with
            | .colon :: rest =>
              match fieldValue kind rest with
              | .ok (v, rest) => members fields fuel false ((name, v) :: found) rest
              | .error e => .error e
            | _ => .error .notJson
        | none =>
          match rest with
          | .colon :: rest =>
            match skip .value [] rest with
            | some rest => members fields fuel false found rest
            | none => .error .notJson
          | _ => .error .notJson
      | _ => .error .notJson
    match first, tokens with
    | _, .closeObject :: _ => collect fields found
    | true, tokens => member tokens
    | false, .comma :: rest => member rest
    | false, _ => .error .notJson

/-- Reads one item for each field; `first` says that none was read yet. -/
def items : Bool → List Field → List Token → Except Fault (List Value)
  | _, [], .closeArray :: _ => .ok []
  | _, [], _ => .error .notJson
  | _, _ :: _, .closeArray :: _ => .error .wrongShape
  | true, (_, kind) :: fields, tokens =>
    match fieldValue kind tokens with
    | .ok (v, rest) => (items false fields rest).map (v :: ·)
    | .error e => .error e
  | false, (_, kind) :: fields, .comma :: rest =>
    match rest with
    | .closeArray :: _ => .error .notJson
    | rest =>
      match fieldValue kind rest with
      | .ok (v, rest) => (items false fields rest).map (v :: ·)
      | .error e => .error e
  | false, _ :: _, _ => .error .notJson

/-- The values of the fields, in their order, from tokens. -/
def ofTokens (fields : List Field) (tokens : List Token) : Except Fault (List Value) :=
  match tokens with
  | .openObject :: rest => members fields (rest.length + 1) true [] rest
  | .openArray :: rest => items true fields rest
  | t :: _ => .error (faultAt t)
  | [] => .error .notJson

/-- The values of the fields, in their order, from a JSON text. -/
def read (fields : List Field) (bytes : ByteArray) : Except Fault (List Value) :=
  ofTokens fields (tokens bytes.toList)

end Pasteboard.Json.Record
