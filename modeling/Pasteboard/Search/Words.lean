import Pasteboard.Search.Letters
/-!
The words of a text.

A word is a run of word characters that starts with one; marks inside the run are left out. Words
are folded, so that two texts have a word in common whatever its case.
-/

namespace Pasteboard.Search

/-- Adds the word under way, if there is one; words and word are in reverse order. -/
def closeWord (words : List (List Char)) : Option (List Char) → List (List Char)
  | none => words
  | some word => word.reverse :: words

/-- Reads words onto those read so far. -/
def wordsOnto (words : List (List Char)) (word : Option (List Char)) : List Char →
    List (List Char)
  | [] => (closeWord words word).reverse
  | c :: cs =>
    if isWordChar c then wordsOnto words (some (folded c :: word.getD [])) cs
    else if word.isSome && isMark c then wordsOnto words word cs
    else wordsOnto (closeWord words word) none cs

/-- The folded words of a text, in order. -/
def words (cs : List Char) : List (List Char) :=
  wordsOnto [] none cs

/-- Whether `run` stands somewhere in a list. -/
def hasRun (run : List (List Char)) : List (List Char) → Bool
  | [] => run.isEmpty
  | w :: ws => run.isPrefixOf (w :: ws) || hasRun run ws

/-- Whether the words of a phrase stand one after the other in a text; a phrase without words
stands nowhere. -/
def phraseIn (phrase text : List (List Char)) : Bool :=
  !phrase.isEmpty && hasRun phrase text

end Pasteboard.Search
