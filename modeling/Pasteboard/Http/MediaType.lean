import Pasteboard.Text.Letter
/-!
Media types: a type, a subtype and parameters.

The two names are tokens around a slash; parameters follow semicolons, each a token, an equals sign
and a token or a quoted string. Type, subtype, names of parameters and the value of `charset` are
compared in lower case and also written so; all else is written as it was read.
-/

namespace Pasteboard.Http

open Pasteboard.Text

/-- Characters of a token. -/
def isTokenChar (c : Char) : Bool :=
  c.isAlphanum || "!#$%&'*+-.^_`|~".toList.contains c

/-- Characters between the quotes of a parameter: no control character. -/
def isQuotedChar (c : Char) : Bool :=
  32 ≤ c.toNat && c.toNat != 127

/-- A media type. -/
structure MediaType where
  kind : String
  subtype : String
  /-- What follows the last plus of the subtype. -/
  suffix : Option String
  params : List (String × String)
  /-- The text of the media type. -/
  text : String
  deriving DecidableEq, Repr

/-- Lower-case characters. -/
def lowered (cs : List Char) : List Char :=
  cs.map Char.toLower

/-- Splits a list at its last plus. The first character is no such plus. -/
def splitSuffix (cs : List Char) : List Char × Option (List Char) :=
  match cs with
  | [] => ([], none)
  | c :: rest =>
    match splitAt? '+' rest.reverse with
    | some (after, before) => (c :: before.reverse, some after.reverse)
    | none => (cs, none)

/-- Reads a quoted value after its opening quote: the value and what follows the closing quote. A
quote right after the opening one does not close. -/
def quotedValue (first : Bool) : List Char → Option (List Char × List Char)
  | [] => none
  | c :: rest =>
    if c = '"' ∧ !first then some ([], rest)
    else if isQuotedChar c then (quotedValue false rest).map fun (v, rest) => (c :: v, rest)
    else none

/-- A parameter that was read: its name, its value, and its text. -/
structure MediaParam where
  name : List Char
  value : List Char
  text : List Char

/-- A parameter with its name in lower case, and its value too if it is the character set. -/
def MediaParam.of (name value : List Char) (quoted : Bool) : MediaParam :=
  let name := lowered name
  let value := if String.ofList name == "charset" then lowered value else value
  let shown := if quoted then '"' :: (value ++ ['"']) else value
  ⟨name, value, name ++ '=' :: shown⟩

/-- Reads the value of a parameter: the parameter and what follows it, from the next semicolon on. -/
def paramValue (name : List Char) : List Char → Option (MediaParam × List Char)
  | '"' :: cs =>
    match quotedValue true cs with
    | some (value, rest) =>
      let p := MediaParam.of name value true
      let blanks := rest.takeWhile (· == ' ')
      match rest.dropWhile (· == ' ') with
      | [] => some ({ p with text := p.text ++ blanks }, [])
      | ';' :: rest => some ({ p with text := p.text ++ blanks }, ';' :: rest)
      | _ => none
    | none => none
  | cs =>
    let value := cs.takeWhile isTokenChar
    match cs.dropWhile isTokenChar with
    | [] => some (MediaParam.of name value false, [])
    | ';' :: rest => if value.isEmpty then none else some (MediaParam.of name value false, ';' :: rest)
    | _ => none

/-- Reads parameters, each after a semicolon; gives them with the text read. The fuel is the number
of characters: every parameter takes at least its semicolon. -/
def paramsFrom : Nat → List Char → Option (List MediaParam × List Char)
  | 0, _ => some ([], [])
  | fuel + 1, cs =>
    match cs with
    | ';' :: cs =>
      let blanks := cs.takeWhile (· == ' ')
      let cs := cs.dropWhile (· == ' ')
      if cs.isEmpty then some ([], ';' :: blanks)
      else
        let name := cs.takeWhile isTokenChar
        match cs.dropWhile isTokenChar with
        | '=' :: rest =>
          if name.isEmpty then none
          else
            match paramValue name rest with
            | some (p, rest) =>
              (paramsFrom fuel rest).map fun (ps, text) =>
                (p :: ps, ';' :: (blanks ++ p.text ++ text))
            | none => none
        | _ => none
    | _ => some ([], [])

/-- Reads a media type. -/
def MediaType.read? (s : String) : Option MediaType :=
  let cs := s.toList
  let kind := cs.takeWhile isTokenChar
  match cs.dropWhile isTokenChar with
  | '/' :: rest =>
    let subtype := rest.takeWhile isTokenChar
    let after := rest.dropWhile isTokenChar
    if kind.isEmpty then none
    else if subtype.isEmpty ∧ !after.isEmpty then none
    else if !after.isEmpty ∧ after.head? ≠ some ';' then none
    else
      match paramsFrom (after.length + 1) after with
      | none => none
      | some (params, text) =>
        let (main, suffix) := splitSuffix (lowered subtype)
        some ⟨String.ofList (lowered kind), String.ofList main, suffix.map String.ofList,
          params.map fun p => (String.ofList p.name, String.ofList p.value),
          String.ofList (lowered kind ++ '/' :: lowered subtype ++
            (if params.isEmpty then [] else text))⟩
  | _ => none

/-- Whether the media type is that of JSON. -/
def MediaType.isJson (m : MediaType) : Bool :=
  m.kind == "application" && (m.subtype == "json" || m.suffix == some "json")

/-- The value of a parameter. -/
def MediaType.param? (m : MediaType) (name : String) : Option String :=
  m.params.lookup name

end Pasteboard.Http
