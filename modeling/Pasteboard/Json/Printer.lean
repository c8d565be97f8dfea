import Pasteboard.Json.Value
import Pasteboard.Text.Hex
/-!
Writing a JSON value, on one line or indented by two spaces.

Quotes, backslashes and the characters below U+0020 are escaped, with the one-letter escapes where
there are some; every other character stands for itself.
-/

namespace Pasteboard.Json

/-- The characters that stand for a character inside a string. -/
def escape (c : Char) : List Char :=
  if c = '"' then ['\\', '"']
  else if c = '\\' then ['\\', '\\']
  else if c = '\n' then ['\\', 'n']
  else if c = '\r' then ['\\', 'r']
  else if c = '\t' then ['\\', 't']
  else if c.toNat = 8 then ['\\', 'b']
  else if c.toNat = 12 then ['\\', 'f']
  else if c.toNat < 32 then ['\\', 'u', '0', '0'] ++ Text.Hex.ofByte (UInt8.ofNat c.toNat)
  else [c]

/-- A text between quotes. -/
def quote (s : String) : String :=
  String.ofList (('"' :: s.toList.flatMap escape) ++ ['"'])

mutual

/-- A value on one line. -/
def render : Json → String
  | .null => "null"
  | .bool b => if b then "true" else "false"
  | .num n => n.text
  | .str s => quote s
  | .arr items => "[" ++ String.intercalate "," (renderAll items) ++ "]"
  | .obj members => "\x7b" ++ String.intercalate "," (renderMembers members) ++ "\x7d"

/-- Each item on one line. -/
def renderAll : List Json → List String
  | [] => []
  | v :: vs => render v :: renderAll vs

/-- Each member on one line. -/
def renderMembers : List (String × Json) → List String
  | [] => []
  | (name, v) :: ms => (quote name ++ ":" ++ render v) :: renderMembers ms

end

/-- A newline and two spaces for each level. -/
def indent (level : Nat) : String :=
  String.ofList ('\n' :: List.replicate (2 * level) ' ')

/-- Parts on lines of their own between two brackets. -/
def block (level : Nat) (opening : String) (parts : List String) (closing : String) : String :=
  if parts.isEmpty then opening ++ closing
  else opening ++ indent (level + 1) ++ String.intercalate ("," ++ indent (level + 1)) parts ++
    indent level ++ closing

mutual

/-- A value over several lines, inside `level` brackets. -/
def prettyAt (level : Nat) : Json → String
  | .arr items => block level "[" (prettyAll (level + 1) items) "]"
  | .obj members => block level "\x7b" (prettyMembers (level + 1) members) "\x7d"
  | .null => "null"
  | .bool b => if b then "true" else "false"
  | .num n => n.text
  | .str s => quote s

/-- Each item over several lines. -/
def prettyAll (level : Nat) : List Json → List String
  | [] => []
  | v :: vs => prettyAt level v :: prettyAll level vs

/-- Each member over several lines. -/
def prettyMembers (level : Nat) : List (String × Json) → List String
  | [] => []
  | (name, v) :: ms => (quote name ++ ": " ++ prettyAt level v) :: prettyMembers level ms

end

/-- A value over several lines. -/
def pretty (v : Json) : String :=
  prettyAt 0 v

end Pasteboard.Json
