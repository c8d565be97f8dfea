import Pasteboard.Text.Clip
import Pasteboard.Text.Letter
/-!
A line diff: the lines that an edit removed and added.

Lines are the parts between newlines. After the longest common run of leading lines, and then of
trailing lines of what remains, are dropped, the old lines are listed behind `-` and the new ones
behind `+`. `listing` is the whole listing, `excerpt` the part of it that fits in a cap.
-/

namespace Pasteboard.Text.LineDiff

/-- Texts longer than this are not compared. -/
def maxInput : Nat := 1048576

/-- The lines of a text. -/
def lines (s : String) : List String :=
  (splitList (· == '\n') s.toList).map String.ofList

/-- Drops the longest common prefix of two lists. -/
def dropCommon {α : Type} [DecidableEq α] : List α → List α → List α × List α
  | a :: as, b :: bs => if a = b then dropCommon as bs else (a :: as, b :: bs)
  | as, bs => (as, bs)

/-- What remains of two lists without their common prefix and then without the common suffix of
the remainders. -/
def middles {α : Type} [DecidableEq α] (old new : List α) : List α × List α :=
  let (o, n) := dropCommon old new
  let (o, n) := dropCommon o.reverse n.reverse
  (o.reverse, n.reverse)

/-- One listed line: its mark, the line and a newline. -/
def marked (mark : Char) (line : String) : String :=
  (String.singleton mark ++ line).push '\n'

/-- Adds marked lines to `out` until it holds at least `cap` bytes. -/
def listUpTo (cap : Nat) (mark : Char) (out : String) : List String → String
  | [] => out
  | line :: rest =>
    if cap ≤ out.utf8ByteSize then out
    else listUpTo cap mark (((out.push mark) ++ line).push '\n') rest

/-- The whole listing of a diff: removed lines, then added lines. -/
def listing (before after : String) : String :=
  let (old, new) := middles (lines before) (lines after)
  String.join (old.map (marked '-') ++ new.map (marked '+'))

/-- The first `cap` bytes of the listing, whole characters only. Empty if either text is too
long to be compared. -/
def excerpt (before after : String) (cap : Nat) : String :=
  if maxInput < before.utf8ByteSize || maxInput < after.utf8ByteSize then ""
  else
    let (old, new) := middles (lines before) (lines after)
    clip cap (listUpTo cap '+' (listUpTo cap '-' "" old) new)

end Pasteboard.Text.LineDiff
