/-!
Search by substring, with patterns.

In a pattern `%` stands for any characters, `_` for any one character, and a backslash takes the
meaning from the character after it. Letters match in either ASCII case. A NUL character ends both
a pattern and the text that is compared with it. The noncharacters U+FFFE and U+FFFF are read as
U+FFFD.
-/

namespace Pasteboard.Search

/-- The longest pattern, in bytes. -/
def maxPatternBytes : Nat := 50000

/-- The characters that stand for one character of the searched text. -/
def literally (c : Char) : List Char :=
  if c = '%' ∨ c = '_' ∨ c = '\\' then ['\\', c] else [c]

/-- The pattern of the texts that contain `raw`. -/
def containing (raw : String) : String :=
  String.ofList (('%' :: raw.toList.flatMap literally) ++ ['%'])

/-- What comes before a NUL character. -/
def beforeNul (cs : List Char) : List Char :=
  cs.takeWhile fun c => c.toNat != 0

/-- Equal up to ASCII case. -/
def sameLetter (a b : Char) : Bool :=
  a.toLower == b.toLower

/-- Whether what is left of a text after some of its characters satisfies `p`. -/
def anywhere (p : List Char → Bool) : List Char → Bool
  | [] => p []
  | c :: cs => p (c :: cs) || anywhere p cs

/-- Whether a text starts with a letter like `c` and the rest satisfies `p`. -/
def nextIs (c : Char) (p : List Char → Bool) : List Char → Bool
  | [] => false
  | d :: cs => sameLetter c d && p cs

/-- Whether a pattern matches a whole text. -/
def likeChars : List Char → List Char → Bool
  | [] => List.isEmpty
  | '%' :: pattern => anywhere (likeChars pattern)
  | '\\' :: c :: pattern => nextIs c (likeChars pattern)
  | ['\\'] => fun _ => false
  | '_' :: pattern => fun text =>
    match text with
    | [] => false
    | _ :: rest => likeChars pattern rest
  | c :: pattern => nextIs c (likeChars pattern)

/-- A character as patterns and texts are read: the last two of the first plane are no characters
and count as U+FFFD. -/
def asRead (c : Char) : Char :=
  if c = '\ufffe' ∨ c = '\uffff' then '\ufffd' else c

/-- The characters of a pattern or of a text as they are compared. -/
def compared (s : String) : List Char :=
  (beforeNul s.toList).map asRead

/-- Whether a text matches a pattern. -/
def like (pattern text : String) : Bool :=
  likeChars (compared pattern) (compared text)

end Pasteboard.Search
