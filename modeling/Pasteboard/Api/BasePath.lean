import Pasteboard.Text.Letter
/-!
The base path, below which the service answers.

A colon in the base path, with what follows it up to the next slash, is a place: any characters
without a slash may stand there. A request is told its path without the base path where the base
path can be taken off segment by segment, that is, where every place is a whole segment.
-/

namespace Pasteboard.Api.BasePath

open Pasteboard.Text

/-- What follows the base path, if the path begins with it. A place at the end of the whole path
must not be empty. -/
def rest? : List Char → List Char → Option (List Char)
  | [], path => some path
  | _ :: _, [] => none
  | b :: base, c :: path =>
    if b = ':' then
      rest? (base.dropWhile (· != '/')) ((c :: path).dropWhile (· != '/'))
    else if b = c then rest? base path
    else none
termination_by base => base.length
decreasing_by
  · exact Nat.lt_succ_of_le (List.dropWhile_suffix _).length_le
  · exact Nat.lt_succ_self _

/-- The segments of a path: what stands between its slashes. -/
def segments (path : String) : List (List Char) :=
  splitList (· == '/') (path.toList.drop 1)

/-- The segments that follow those of the base path; an empty segment of the base path ends it
where no empty one stands in the path. -/
def segmentsAfter? : List (List Char) → List (List Char) → Option (List (List Char))
  | [], path => some path
  | _ :: _, [] => none
  | b :: base, s :: path =>
    if b.head? = some ':' ∨ b = s then segmentsAfter? base path
    else if b.isEmpty then some (s :: path)
    else none

/-- The path of a route below the base path; the base path alone is that of the root. -/
def below? (base path : String) : Option String :=
  if base == "/" then some path
  else
    match rest? base.toList path.toList with
    | some [] => some "/"
    | some ['/'] => none
    | some rest => some (String.ofList rest)
    | none => none

/-- The path that a request is told: without the base path, or as it is. -/
def stripped (base path : String) : String :=
  if base == "/" then path
  else
    match segmentsAfter? (segments base) (segments path) with
    | some rest => "/" ++ String.intercalate "/" (rest.map String.ofList)
    | none => path

end Pasteboard.Api.BasePath
