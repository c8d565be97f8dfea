/-!
Equality of byte strings.
-/

namespace Pasteboard.Text

/-- Byte strings are equal if their bytes are. -/
instance decideBytes : DecidableEq ByteArray := fun a b =>
  if h : a.data = b.data then .isTrue (ByteArray.ext h)
  else .isFalse fun e => h (congrArg ByteArray.data e)

end Pasteboard.Text
