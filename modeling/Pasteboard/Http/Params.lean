import Pasteboard.Named
import Pasteboard.Text.Blank
import Pasteboard.Text.Hex
import Pasteboard.Text.Letter
import Pasteboard.Text.Utf8
/-!
Targets of requests and the parameters in them.

A target has a path and, after a question mark, a query; what follows a `#` is no part of it. The
query is a list of pairs in the form encoding: pairs between `&`, a name before the first `=`, a
plus for a space and `%` with two digits for a byte. Escapes that are no escapes stand for
themselves, and bytes that are not UTF-8 become replacement characters.
-/

namespace Pasteboard.Http

open Pasteboard.Text

/-! ### Targets -/

/-- The target of a request. -/
structure Target where
  path : String
  query : Option String
  deriving DecidableEq, Repr

/-- The characters before the first one that satisfies `p`, and the rest from there. -/
def cutAt (p : Char → Bool) (cs : List Char) : List Char × List Char :=
  (cs.takeWhile fun c => !p c, cs.dropWhile fun c => !p c)

/-- Drops the scheme and the host of an absolute target. -/
def afterHost (cs : List Char) : List Char :=
  let rec go : List Char → Option (List Char)
    | ':' :: '/' :: '/' :: rest => some (cutAt (fun c => c == '/' || c == '?') rest).2
    | '/' :: _ => none
    | _ :: rest => go rest
    | [] => none
  (go cs).getD cs

/-- The target that a text denotes. An absolute target without a path has the path `/`. -/
def Target.ofText (s : String) : Target :=
  let (shown, _) := cutAt (· == '#') s.toList
  let (path, query) := cutAt (· == '?') (afterHost shown)
  ⟨if path.isEmpty then "/" else String.ofList path,
    match query with
    | [] => none
    | _ :: query => some (String.ofList query)⟩

/-! ### Form encoding -/

/-- The byte that a percent sign and two digits stand for. -/
def escapedByte? (percent x y : UInt8) : Option UInt8 :=
  if percent == 37 then
    match Hex.value? (Char.ofNat x.toNat), Hex.value? (Char.ofNat y.toNat) with
    | some x, some y => some (UInt8.ofNat (16 * x + y))
    | _, _ => none
  else none

/-- Decodes escapes; a plus is a space. -/
def unescape : List UInt8 → List UInt8
  | b :: x :: y :: rest =>
    match escapedByte? b x y with
    | some e => e :: unescape rest
    | none => (if b == 43 then 32 else b) :: unescape (x :: y :: rest)
  | b :: rest => (if b == 43 then 32 else b) :: unescape rest
  | [] => []

/-- The text of an encoded name or value. -/
def formText (bytes : List UInt8) : String :=
  Utf8.text ⟨(unescape bytes).toArray⟩

/-- The name and the value of one pair; the value is empty if there is no `=`. -/
def formPair (bytes : List UInt8) : String × String :=
  let value := bytes.dropWhile (· != 61)
  (formText (bytes.takeWhile (· != 61)), formText (value.drop 1))

/-- The pairs of a form-encoded text. -/
def formPairs (s : String) : List (String × String) :=
  ((splitList (· == 38) s.toUTF8.toList).filter fun part => !part.isEmpty).map formPair

/-- The pairs in the query of a target. -/
def Target.pairs (t : Target) : List (String × String) :=
  formPairs (t.query.getD "")

/-! ### Parameters -/

/-- Parameters by name. -/
abbrev Params := List (String × String)

/-- The parameters in the query of a target: of a repeated name the last value. -/
def Target.params (t : Target) : Params :=
  Named.putAll [] t.pairs

/-- The trimmed value of a parameter, unless it is blank. -/
def Params.word? (params : Params) (name : String) : Option String :=
  (params.lookup name).bind trimmed?

end Pasteboard.Http
