import Pasteboard.Text.Blank
import Pasteboard.Text.Clip
/-!
What a client may search for.

A query is a row of terms: bare words, and phrases between quotes, in which a doubled quote is a
quote. Terms that stand side by side must all be found; a bar between two terms means that either
may be. `expression` writes the query in the language of the full-text index, every term as a
string of it, so that no character of a term has a meaning there.
-/

namespace Pasteboard.Search

open Pasteboard.Text

/-- The bytes of a query that count. -/
def maxQueryBytes : Nat := 4096

/-- Why a text is no query. -/
inductive QueryFault
  | empty
  | unclosedQuote
  | danglingOperator
  deriving DecidableEq, Repr

/-- The words for a fault. -/
def QueryFault.reason : QueryFault → String
  | .empty => "empty"
  | .unclosedQuote => "unclosed quote"
  | .danglingOperator => "dangling operator"

/-- A part of a query. -/
inductive Part
  | term (t : List Char)
  | either
  deriving DecidableEq, Repr

/-- Adds the bare word under way, if there is one; parts and word are in reverse order. -/
def flush (parts : List Part) (word : List Char) : List Part :=
  if word.isEmpty then parts else .term word.reverse :: parts

/-- Reads the parts of a query onto those read so far; none if a quote stays open. -/
def scan (quoted : Bool) (parts : List Part) (word : List Char) : List Char → Option (List Part)
  | [] => if quoted then none else some (flush parts word).reverse
  | c :: cs =>
    if quoted then
      if c = '"' then
        match cs with
        | '"' :: rest => scan true parts ('"' :: word) rest
        | rest => scan false (.term word.reverse :: parts) [] rest
      else scan true parts (c :: word) cs
    else if c = '"' then scan true (flush parts word) [] cs
    else if c = '|' then scan false (.either :: flush parts word) [] cs
    else if isBlank c then scan false (flush parts word) [] cs
    else scan false parts (c :: word) cs

/-- A term as a string of the index language: quotes doubled, between quotes. -/
def quoteTerm (t : List Char) : String :=
  String.ofList (('"' :: t.flatMap fun c => if c = '"' then ['"', '"'] else [c]) ++ ['"'])

/-- Writes parts onto an expression. A bar waits for the term after it, and needs a term before. -/
def joinParts (out : String) (waiting : Bool) : List Part → Except QueryFault String
  | [] => if waiting then .error .danglingOperator else .ok out
  | .either :: rest =>
    if out.isEmpty || waiting then .error .danglingOperator else joinParts out true rest
  | .term t :: rest =>
    let joiner := if waiting then " OR " else if out.isEmpty then "" else " AND "
    joinParts (out ++ joiner ++ quoteTerm t) false rest

/-- The part of a text that is read as a query. -/
def queryText (raw : String) : String :=
  clip maxQueryBytes (trim raw)

/-- The expression of the index language for a query. -/
def expression (raw : String) : Except QueryFault String :=
  if (trim raw).isEmpty then .error .empty
  else match scan false [] [] (queryText raw).toList with
    | none => .error .unclosedQuote
    | some parts => joinParts "" false parts

end Pasteboard.Search
