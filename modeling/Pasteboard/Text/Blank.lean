/-!
Blank characters and trimming.

A blank is a character of the Unicode property White_Space. Every text that a client sends is
trimmed of blanks before it is read, so the property is fixed once, here.
-/

namespace Pasteboard.Text

/-- The characters of the Unicode property White_Space. -/
def isBlank (c : Char) : Bool :=
  let n := c.toNat
  (9 ≤ n && n ≤ 13) || n == 0x20 || n == 0x85 || n == 0xA0 || n == 0x1680 ||
    (0x2000 ≤ n && n ≤ 0x200A) || n == 0x2028 || n == 0x2029 || n == 0x202F || n == 0x205F ||
    n == 0x3000

/-- Drops the blanks at both ends of a list of characters. -/
def trimBlanks (cs : List Char) : List Char :=
  ((cs.dropWhile isBlank).reverse.dropWhile isBlank).reverse

/-- Drops the blanks at both ends of a text. -/
def trim (s : String) : String :=
  String.ofList (trimBlanks s.toList)

/-- The trimmed text, unless nothing is left of it. -/
def trimmed? (s : String) : Option String :=
  let t := trim s
  if t.isEmpty then none else some t

/-- Whether a text holds blanks only. -/
def allBlank (s : String) : Bool :=
  s.toList.all isBlank

end Pasteboard.Text
