import Pasteboard.Search.Words
/-!
Expressions of the full-text index.

An expression joins strings by the words `AND` and `OR`, of which `AND` binds tighter. A string
stands between quotes, in which a doubled quote is a quote; a NUL character ends the expression.
A text matches if, in one of the alternatives, it contains every string as a phrase.
-/

namespace Pasteboard.Search

/-- Why a text is no expression. -/
inductive ExpressionFault
  | unterminated
  | malformed
  deriving DecidableEq, Repr

/-- The words for a fault. -/
def ExpressionFault.message : ExpressionFault → String
  | .unterminated => "unterminated string"
  | .malformed => "fts5: syntax error"

/-- A token of an expression. -/
inductive Lexeme
  | phrase (t : List Char)
  | both
  | either
  deriving DecidableEq, Repr

/-- Reads lexemes onto those read so far. `open_` holds the string under way in reverse order. -/
def lexOnto (out : List Lexeme) (open_ : Option (List Char)) : List Char →
    Except ExpressionFault (List Lexeme)
  | [] => if open_.isSome then .error .unterminated else .ok out.reverse
  | c :: cs =>
    match open_ with
    | some t =>
      if c = '"' then
        match cs with
        | '"' :: rest => lexOnto out (some ('"' :: t)) rest
        | rest => lexOnto (.phrase t.reverse :: out) none rest
      else if c.toNat = 0 then .error .unterminated
      else lexOnto out (some (c :: t)) cs
    | none =>
      if c = ' ' then lexOnto out none cs
      else if c = '"' then lexOnto out (some []) cs
      else match c, cs with
        | 'A', 'N' :: 'D' :: rest => lexOnto (.both :: out) none rest
        | 'O', 'R' :: rest => lexOnto (.either :: out) none rest
        | _, _ => .error .malformed

/-- An expression: alternatives, each a list of phrases that must all be found. -/
abbrev Alternatives := List (List (List Char))

/-- Groups lexemes: phrases and joiners take turns. -/
def groupsOf (done : Alternatives) (group : List (List Char)) : List Lexeme →
    Except ExpressionFault Alternatives
  | [] => .error .malformed
  | [.phrase t] => .ok ((t :: group).reverse :: done).reverse
  | .phrase t :: .both :: rest => groupsOf done (t :: group) rest
  | .phrase t :: .either :: rest => groupsOf ((t :: group).reverse :: done) [] rest
  | _ => .error .malformed

/-- The alternatives that the text of an expression denotes. -/
def Alternatives.read (s : String) : Except ExpressionFault Alternatives :=
  match lexOnto [] none s.toList with
  | .ok lexemes => groupsOf [] [] lexemes
  | .error e => .error e

/-- Whether a text matches. -/
def Alternatives.holds (alternatives : Alternatives) (text : String) : Bool :=
  let inText := words text.toList
  alternatives.any fun group => group.all fun phrase => phraseIn (words phrase) inText

end Pasteboard.Search
