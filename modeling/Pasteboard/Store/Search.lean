import Pasteboard.Search.Expression
import Pasteboard.Search.Pattern
import Pasteboard.Store.Basic
/-!
Searching active text.

The full-text index answers if there is one; otherwise the slots are searched for the query as a
substring, where that is allowed. Either way the query must be a query of the search language. What
was found is a listing like any other: filtered, ordered and cut into pages.
-/

namespace Pasteboard

open Pasteboard.Search

/-- What answers a search. -/
inductive Engine
  | fullText
  | substring
  deriving DecidableEq, Repr

/-- The word for an engine. -/
def Engine.name : Engine → String
  | .fullText => "fts"
  | .substring => "like"

/-- The answer to a search: a page of it, the number of all rows found, and the engine. -/
structure Found where
  records : List Record
  total : Nat
  engine : Engine
  deriving DecidableEq, Repr

namespace Store

/-- The engine that answers a search. -/
def engine? (fallback : Bool) (index : Option Index) : Except StoreError Engine :=
  if index.isSome then .ok .fullText
  else if fallback then .ok .substring
  else .error .searchUnavailable

/-- The failure for a text that is no expression of the full-text index. -/
def expressionFailure : ExpressionFault → StoreError
  | .unterminated => .database .unterminatedString
  | .malformed => .badQuery ExpressionFault.malformed.message

/-- The test that the full-text index makes of rows, for an expression. The index is asked about one
row after the other, so a text that is no expression fails as soon as there is a row to ask about. -/
def indexTest (index : Index) (expression : String) (compared : List Row) :
    Except StoreError (Row → Bool) :=
  match Alternatives.read expression with
  | .ok alternatives =>
    let ids := index.matching alternatives.holds
    .ok fun r => ids.contains r.id
  | .error fault => if compared.isEmpty then .ok fun _ => false else .error (expressionFailure fault)

/-- The test for rows that contain a text. A pattern that is too long fails as soon as there is a
row to compare it with. -/
def substringTest (raw : String) (compared : List Row) : Except StoreError (Row → Bool) :=
  let pattern := containing raw
  if maxPatternBytes < pattern.utf8ByteSize && !compared.isEmpty then
    .error (.database .patternTooLong)
  else .ok fun r => match r.content with
    | some content => like pattern content
    | none => false

/-- Searches active text. -/
def search (fallback : Bool) (raw : String) (limit : Nat) (f : Filter) (position : Position)
    (s : Store) : Except StoreError Found := do
  let expression ← match expression raw with
    | .ok e => pure e
    | .error fault => .error (.badQuery fault.reason)
  let engine ← engine? fallback s.index
  if f.isFile = some true then return ⟨[], 0, engine⟩
  let textOnly := { f with includeInactive := false, isFile := some false }
  let texts := s.slots.filter textOnly.predicate.selects
  let found ← match s.index with
    | some index => indexTest index expression texts
    | none => substringTest raw texts
  let total := (texts.filter found).length
  let records := (textOnly.page found limit position s.slots).map Row.record
  return ⟨records, total, engine⟩

end Store

end Pasteboard
