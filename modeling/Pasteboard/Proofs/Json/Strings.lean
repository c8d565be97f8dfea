import Pasteboard.Json.Printer
import Pasteboard.Json.Reader
import Pasteboard.Proofs.Text.Reading
/-!
Strings that are written are read back.

A character is written as itself or as an escape. The bytes of either take the reader of a string from between two
characters to between two characters, and add the bytes of the character.
-/

namespace Pasteboard

open Text

namespace Json

variable {cs : Chars} {rest bytes : List UInt8} {b : UInt8} {c : Char} {s : String}

/-- The bytes of an escape, or of the character itself. -/
def written (c : Char) : List UInt8 := (escape c).flatMap String.utf8EncodeChar

/-- The characters that an escape of one letter stands for. -/
def shortened : List Char := ['"', '\\', '\n', '\r', '\t', '\x08', '\x0c']

/-- The three ways to write a character. -/
inductive Writing (c : Char) : Prop
  | letter {b e : UInt8} (short : c ∈ shortened) (bytes : written c = [0x5C, b]) (read : escaped? b = some e)
      (other : b ≠ 0x75) (char : String.utf8EncodeChar c = [e])
  | unit (long : c ∉ shortened) (control : c.toNat < 32)
      (bytes : written c = (['\\', 'u', '0', '0'] ++ Hex.ofByte (UInt8.ofNat c.toNat)).flatMap String.utf8EncodeChar)
  | self (long : c ∉ shortened) (other : ¬c.toNat < 32) (bytes : written c = String.utf8EncodeChar c)

theorem writing (c : Char) : Writing c := by
  by_cases hshort : c ∈ shortened
  · have hmem := hshort
    simp only [shortened, List.mem_cons, List.not_mem_nil, or_false] at hmem
    rcases hmem with rfl | rfl | rfl | rfl | rfl | rfl | rfl
    · exact .letter (b := 0x22) (e := 0x22) hshort rfl rfl (by decide) rfl
    · exact .letter (b := 0x5C) (e := 0x5C) hshort rfl rfl (by decide) rfl
    · exact .letter (b := 0x6E) (e := 0x0A) hshort rfl rfl (by decide) rfl
    · exact .letter (b := 0x72) (e := 0x0D) hshort rfl rfl (by decide) rfl
    · exact .letter (b := 0x74) (e := 0x09) hshort rfl rfl (by decide) rfl
    · exact .letter (b := 0x62) (e := 0x08) hshort rfl rfl (by decide) rfl
    · exact .letter (b := 0x66) (e := 0x0C) hshort rfl rfl (by decide) rfl
  · have hescape : escape c =
        if c.toNat < 32 then ['\\', 'u', '0', '0'] ++ Hex.ofByte (UInt8.ofNat c.toNat) else [c] := by
      have hcode {n : Nat} (hn : Char.ofNat n ∈ shortened) : c.toNat ≠ n := by
        rintro rfl
        exact hshort (by rwa [Char.ofNat_toNat] at hn)
      have hchar {d : Char} (hd : d ∈ shortened) : c ≠ d := fun hc => hshort (hc ▸ hd)
      rw [escape, if_neg (hchar (by decide)), if_neg (hchar (by decide)), if_neg (hchar (by decide)),
        if_neg (hchar (by decide)), if_neg (hchar (by decide)), if_neg (hcode (by decide)), if_neg (hcode (by decide))]
    by_cases hcontrol : c.toNat < 32
    · rw [if_pos hcontrol] at hescape
      exact .unit hshort hcontrol (by rw [written, hescape])
    · rw [if_neg hcontrol] at hescape
      exact .self hshort hcontrol (by rw [written, hescape, List.flatMap_singleton])

/-! ### Reading a character -/

/-- A byte that is read as itself. -/
def IsPlain (b : UInt8) : Prop := b ≠ 0x22 ∧ b ≠ 0x5C ∧ ¬b < 0x20

theorem stringRest_plain (h : IsPlain b) : stringRest .plain cs (b :: rest) = stringRest .plain (cs.add b) rest := by
  obtain ⟨hquote, hslash, hcontrol⟩ := h
  rw [stringRest, if_neg hquote, Chars.step, if_neg hslash, if_neg hcontrol]

theorem stringRest_plains (h : ∀ b ∈ bytes, IsPlain b) :
    stringRest .plain cs (bytes ++ rest) = stringRest .plain ⟨bytes.reverse ++ cs.bytes, cs.good⟩ rest := by
  induction bytes generalizing cs with
  | nil => rfl
  | cons b bytes ih =>
    rw [List.cons_append, stringRest_plain (h b (.head _)), ih fun b hb => h b (.tail _ hb)]
    simp [Chars.add]

theorem isPlain_of_mem (hquote : c ≠ '"') (hslash : c ≠ '\\') (hcontrol : ¬c.toNat < 32)
    (hb : b ∈ String.utf8EncodeChar c) : IsPlain b := by
  by_cases hascii : c.toNat ≤ 127
  · rw [utf8EncodeChar_ascii hascii, List.mem_singleton] at hb
    subst hb
    have hsame : (UInt8.ofNat c.toNat).toNat = c.toNat :=
      UInt8.toNat_ofNat_of_lt' (Nat.lt_of_le_of_lt hascii (by decide))
    have hne {n : Nat} (hn : n < 256) (h : c ≠ Char.ofNat n) : UInt8.ofNat c.toNat ≠ UInt8.ofNat n := by
      intro heq
      have hnat := congrArg UInt8.toNat heq
      rw [hsame, UInt8.toNat_ofNat_of_lt' hn] at hnat
      exact h (by rw [← hnat, Char.ofNat_toNat])
    refine ⟨hne (by decide) hquote, hne (by decide) hslash, ?_⟩
    rw [UInt8.lt_iff_toNat_lt, hsame]
    exact hcontrol
  · have hbig := le_of_mem_utf8EncodeChar (Nat.not_le.mp hascii) hb
    refine ⟨?_, ?_, ?_⟩
    · rintro rfl
      exact absurd hbig (by decide)
    · rintro rfl
      exact absurd hbig (by decide)
    · rw [UInt8.lt_iff_toNat_lt]
      exact fun hlt => absurd (hbig.trans hlt.le) (by decide)

/-- An escape of one letter. -/
theorem stringRest_letter {e : UInt8} (h : escaped? b = some e) (hletter : b ≠ 0x75) :
    stringRest .plain cs (0x5C :: b :: rest) = stringRest .plain (cs.add e) rest := by
  have hclose : (if b = 0x22 then cs.close (.escape none) else none) = none := ite_id _
  have hstep : cs.step b (.escape none) = some (.plain, cs.add e) := by
    rw [Chars.step, if_neg hletter, h]
    rfl
  have hslash : stringRest .plain cs (0x5C :: b :: rest) = stringRest (.escape none) cs (b :: rest) := rfl
  rw [hslash, stringRest, hclose]
  dsimp only
  rw [hstep]

theorem hexDigit_read {n : Nat} (h : n < 16) :
    ∃ b, String.utf8EncodeChar (Hex.digit n) = [b] ∧ hexValue? b = some n := by
  have hall : ∀ n : Fin 16, ∃ b, String.utf8EncodeChar (Hex.digit n) = [b] ∧ hexValue? b = some n.val := by
    intro n
    refine ⟨UInt8.ofNat (Hex.digit n).toNat, ?_⟩
    revert n
    decide +kernel
  exact hall ⟨n, h⟩

/-- A digit within the escape of a unit, which another one follows. -/
theorem stringRest_digit {left value d : Nat} (h : hexValue? b = some d) (hleft : 1 < left) :
    stringRest (.unit none left value) cs (b :: rest) =
      stringRest (.unit none (left - 1) (value * 16 + d)) cs rest := by
  have hclose : (if b = 0x22 then cs.close (.unit none left value) else none) = none := ite_id _
  rw [stringRest, hclose]
  dsimp only
  rw [Chars.step, h, Option.map_some, if_pos hleft]

/-- The last digit within the escape of a unit. -/
theorem stringRest_lastDigit {value d : Nat} (h : hexValue? b = some d) (hhigh : isHigh (value * 16 + d) = false)
    (hlow : isLow (value * 16 + d) = false) :
    stringRest (.unit none 1 value) cs (b :: rest) = stringRest .plain (cs.addChar (value * 16 + d)) rest := by
  have hclose : (if b = 0x22 then cs.close (.unit none 1 value) else none) = none := ite_id _
  have hunit : cs.unitAfter none (value * 16 + d) = (.plain, cs.addChar (value * 16 + d)) := by
    rw [Chars.unitAfter, Chars.unit, hhigh, hlow]
    rfl
  rw [stringRest, hclose]
  dsimp only
  rw [Chars.step, h, Option.map_some, if_neg (lt_irrefl 1), hunit]

theorem ofByte_eq {n : Nat} (h : n < 256) : Hex.ofByte (UInt8.ofNat n) = [Hex.digit (n / 16), Hex.digit (n % 16)] := by
  rw [Hex.ofByte, UInt8.toNat_ofNat_of_lt' h]

/-- An escape of four digits that denotes a character below U+0100. -/
theorem stringRest_unit {n : Nat} (h : n < 256) :
    stringRest .plain cs ((['\\', 'u', '0', '0'] ++ Hex.ofByte (UInt8.ofNat n)).flatMap String.utf8EncodeChar ++ rest) =
      stringRest .plain (cs.addChar n) rest := by
  obtain ⟨b₁, hb₁, hread₁⟩ := hexDigit_read (n := n / 16) (by omega)
  obtain ⟨b₀, hb₀, hread₀⟩ := hexDigit_read (n := n % 16) (by omega)
  have hbytes : (['\\', 'u', '0', '0'] ++ Hex.ofByte (UInt8.ofNat n)).flatMap String.utf8EncodeChar ++ rest =
      0x5C :: 0x75 :: 0x30 :: 0x30 :: b₁ :: b₀ :: rest := by
    rw [ofByte_eq h, List.flatMap_append]
    simp only [List.flatMap_cons, List.flatMap_nil, hb₁, hb₀]
    rfl
  have hstart : stringRest .plain cs (0x5C :: 0x75 :: 0x30 :: 0x30 :: b₁ :: b₀ :: rest) =
      stringRest (.unit none 2 0) cs (b₁ :: b₀ :: rest) := rfl
  have hn : (0 * 16 + n / 16) * 16 + n % 16 = n := by omega
  rw [hbytes, hstart, stringRest_digit hread₁ (by decide), stringRest_lastDigit hread₀, hn]
  · rw [hn, isHigh, Bool.and_eq_false_iff]
    exact Or.inl (decide_eq_false (by omega))
  · rw [hn, isLow, Bool.and_eq_false_iff]
    exact Or.inl (decide_eq_false (by omega))

/-- However a character is written, its bytes are added. -/
theorem stringRest_written (c : Char) (cs : Chars) (rest : List UInt8) :
    stringRest .plain cs (written c ++ rest) =
      stringRest .plain ⟨(String.utf8EncodeChar c).reverse ++ cs.bytes, cs.good⟩ rest := by
  cases writing c with
  | letter short bytes read other char =>
    rw [bytes, char]
    exact stringRest_letter read other
  | unit long control bytes => rw [bytes, stringRest_unit (by omega), Chars.addChar, Char.ofNat_toNat]
  | self long other bytes =>
    have hquote : c ≠ '"' := fun hc => long (hc ▸ by decide)
    have hslash : c ≠ '\\' := fun hc => long (hc ▸ by decide)
    rw [bytes, stringRest_plains fun b hb => isPlain_of_mem hquote hslash other hb]

/-- How many bytes a character takes inside a string. -/
def writtenSize (c : Char) : Nat :=
  if c ∈ shortened then 2 else if c.toNat < 32 then 6 else c.utf8Size

theorem length_written (c : Char) : (written c).length = writtenSize c := by
  cases writing c with
  | letter short bytes read other char =>
    rw [bytes, writtenSize, if_pos short]
    rfl
  | unit long control bytes =>
    obtain ⟨b₁, hb₁, -⟩ := hexDigit_read (n := c.toNat / 16) (by omega)
    obtain ⟨b₀, hb₀, -⟩ := hexDigit_read (n := c.toNat % 16) (by omega)
    rw [bytes, writtenSize, if_neg long, if_pos control, ofByte_eq (by omega), List.flatMap_append]
    simp only [List.flatMap_cons, List.flatMap_nil, hb₁, hb₀]
    rfl
  | self long other bytes => rw [bytes, writtenSize, if_neg long, if_neg other, String.length_utf8EncodeChar]

/-! ### Reading a string -/

theorem stringRest_writtens (chars : List Char) (cs : Chars) (rest : List UInt8) :
    stringRest .plain cs (chars.flatMap written ++ rest) =
      stringRest .plain ⟨(chars.flatMap String.utf8EncodeChar).reverse ++ cs.bytes, cs.good⟩ rest := by
  induction chars generalizing cs with
  | nil => rfl
  | cons c chars ih =>
    rw [List.flatMap_cons, List.append_assoc, stringRest_written, ih, List.flatMap_cons, List.reverse_append,
      List.append_assoc]

theorem toList_quote (s : String) : (quote s).toUTF8.toList = 0x22 :: (s.toList.flatMap written ++ [0x22]) := by
  have hquote : String.utf8EncodeChar '"' = [0x22] := rfl
  rw [toList_toUTF8, quote, String.toList_ofList, List.flatMap_append, List.flatMap_cons, hquote, List.flatMap_assoc,
    List.flatMap_singleton, hquote]
  rfl

theorem length_quote (s : String) : (quote s).toUTF8.toList.length = 2 + (s.toList.map writtenSize).sum := by
  have hchars : s.toList.map (fun c => (written c).length) = s.toList.map writtenSize :=
    List.map_congr_left fun c _ => length_written c
  rw [toList_quote, List.length_cons, List.length_append, List.length_flatMap, hchars, List.length_singleton]
  omega

/-- The bytes of a text denote it. -/
theorem text?_bytes (s : String) : Chars.text? ⟨s.toUTF8.toList.reverse, true⟩ = some s := by
  rw [Chars.text?, if_pos rfl, List.reverse_reverse, toList_toUTF8, ← toUTF8_eq, String.toUTF8_eq_toByteArray,
    String.fromUTF8?, dif_pos s.isValidUTF8]
  rfl

/-- A string that is written is one token. -/
theorem tokenFrom_quote (s : String) (rest : List UInt8) :
    tokenFrom 0x22 (s.toList.flatMap written ++ 0x22 :: rest) = some (.str (some s), rest) := by
  have hend : stringRest .plain ⟨s.toUTF8.toList.reverse, true⟩ (0x22 :: rest) = some (some s, rest) := by
    rw [stringRest, if_pos rfl, Chars.close, text?_bytes]
  have hrest : stringRest .plain ⟨[], true⟩ (s.toList.flatMap written ++ 0x22 :: rest) = some (some s, rest) := by
    rw [stringRest_writtens, List.append_nil, ← toList_toUTF8, hend]
  rw [tokenFrom, hrest]
  rfl

end Json

end Pasteboard
