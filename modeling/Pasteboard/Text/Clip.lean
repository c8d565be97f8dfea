/-!
The longest prefix of a text within a number of UTF-8 bytes.

A clip never splits a character: where the bytes run out inside one, the clip ends before it. That
place is looked for byte by byte, downwards.
-/

namespace Pasteboard.Text

/-- The number of bytes that the UTF-8 encodings of the characters take. -/
def byteSize (cs : List Char) : Nat :=
  cs.foldr (fun c n => c.utf8Size + n) 0

/-- The last boundary between characters at or before a place, looked for downwards; none if the
search would go past the beginning. -/
def lastBoundary? (s : String) : Nat → Option s.Pos
  | 0 => s.pos? 0
  | n + 1 => s.pos? ⟨n + 1⟩ <|> lastBoundary? s n

/-- The longest prefix of a text that takes at most `room` bytes and splits no character. -/
def clip (room : Nat) (s : String) : String :=
  if s.utf8ByteSize ≤ room then s
  else
    match lastBoundary? s room with
    | some p => (s.sliceTo p).copy
    | none => ""

end Pasteboard.Text
