import Pasteboard.Text.Blank
/-!
ASCII letter case, the words that switch a setting on, and control characters.
-/

namespace Pasteboard.Text

/-- Lowers ASCII capitals and leaves every other character alone. -/
def lower (s : String) : String :=
  String.ofList (s.toList.map Char.toLower)

/-- Trimmed and in ASCII lower case: how the names of roles, lists and orders are compared. -/
def keyword (s : String) : String :=
  lower (trim s)

/-- The words that switch a setting on are `1`, `true`, `yes` and `on`, in any letter case. No
letter outside ASCII lowers to a letter of these words, so ASCII case is enough. -/
def isTruthy (s : String) : Bool :=
  ["1", "true", "yes", "on"].contains (keyword s)

/-- Control characters: the general category Cc. -/
def isControl (c : Char) : Bool :=
  c.toNat < 0x20 || (0x7F ≤ c.toNat && c.toNat ≤ 0x9F)

/-- Whether `t` starts with `p`. -/
def startsWith (t p : String) : Bool :=
  p.toList.isPrefixOf t.toList

/-- Splits a list at the first place where `sep` stands. -/
def splitAt? (sep : Char) : List Char → Option (List Char × List Char)
  | [] => none
  | c :: cs => if c = sep then some ([], cs) else (splitAt? sep cs).map fun (a, b) => (c :: a, b)

/-- The parts of a text before and after the first `sep`, if there is one. -/
def splitOnce (sep : Char) (s : String) : Option (String × String) :=
  (splitAt? sep s.toList).map fun (a, b) => (String.ofList a, String.ofList b)

/-- The parts of a list between the separators that satisfy `p`; always at least one part. -/
def splitList {α : Type} (p : α → Bool) (xs : List α) : List (List α) :=
  xs.foldr (fun x parts =>
    if p x then [] :: parts
    else match parts with
      | [] => [[x]]
      | part :: rest => (x :: part) :: rest) [[]]

/-- The parts of a text between the commas, trimmed, blank parts left out. -/
def commaParts (s : String) : List String :=
  (splitList (· == ',') s.toList).filterMap fun part =>
    let t := trimBlanks part
    if t.isEmpty then none else some (String.ofList t)

theorem splitList_ne_nil {α : Type} (p : α → Bool) (xs : List α) : splitList p xs ≠ [] := by
  induction xs with
  | nil => simp [splitList]
  | cons x xs ih =>
    simp only [splitList, List.foldr_cons]
    split
    · simp
    · split <;> simp

end Pasteboard.Text
