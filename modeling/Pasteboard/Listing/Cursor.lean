import Pasteboard.Text.Letter
import Pasteboard.Text.Numeral
/-!
Cursors: where a page of a listing ended.

A cursor names the last slot of a page by its time of creation and its id. Its text is the two
numbers with a colon between them.
-/

namespace Pasteboard

open Pasteboard.Text

/-- A place in a listing. -/
structure Cursor where
  createdAt : Int
  id : Int
  deriving DecidableEq, Repr

/-- Why a text is no cursor. -/
inductive CursorFault
  | malformed
  | negativeTime
  | nonPositiveId
  deriving DecidableEq, Repr

/-- The words for a fault. -/
def CursorFault.message : CursorFault → String
  | .malformed => "cursor must look like <created_at>:<id>"
  | .negativeTime => "cursor timestamp must not be negative"
  | .nonPositiveId => "cursor id must be positive"

/-- The text of a cursor. -/
def Cursor.text (c : Cursor) : String :=
  toString c.createdAt ++ ":" ++ toString c.id

/-- Reads a cursor: two numbers of 64 bits around the first colon, the first not negative, the
second positive. -/
def Cursor.read (s : String) : Except CursorFault Cursor :=
  match splitOnce ':' s with
  | none => .error .malformed
  | some (left, right) =>
    match Numeral.read? Numeral.int64 left, Numeral.read? Numeral.int64 right with
    | some createdAt, some id =>
      if createdAt < 0 then .error .negativeTime
      else if id ≤ 0 then .error .nonPositiveId
      else .ok ⟨createdAt, id⟩
    | _, _ => .error .malformed

end Pasteboard
