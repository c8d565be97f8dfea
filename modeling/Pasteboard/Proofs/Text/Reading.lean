import Mathlib.Data.List.DropRight
import Mathlib.Data.Nat.Digits.Defs
import Pasteboard.Text.Letter
import Pasteboard.Text.Numeral
/-!
What is read from texts that were put together.

A number that is not negative is read back from its text, which consists of digits. A text is not changed by trimming if
no blank stands at either end, as in one that was trimmed. A text is split where it was joined if the separator does not
stand in the first part, and the parts between the commas of a joined text are those of both texts. Blanks around a text
stay at its sides when it is split. The bytes of a text are those of its characters, one character after another.
-/

namespace Pasteboard

open Text

/-! ### Bytes -/

theorem Text.toList_loop (bytes : ByteArray) (i : Nat) (read : List UInt8) :
    ByteArray.toList.loop bytes i read = read.reverse ++ bytes.data.toList.drop i := by
  fun_induction ByteArray.toList.loop bytes i read with
  | case1 i read h ih =>
    have hi : i < bytes.data.toList.length := h
    have hget : bytes.get! i = bytes.data.toList[i] := by
      show bytes.data[i]! = _
      rw [getElem!_pos bytes.data i h, Array.getElem_toList]
    rw [ih, List.drop_eq_getElem_cons hi, hget]
    simp
  | case2 i read h =>
    rw [List.drop_eq_nil_of_le (Nat.not_lt.mp h), List.append_nil]

/-- A string of bytes is read as the list that it was made of. -/
theorem Text.toList_mk (bytes : List UInt8) : (ByteArray.mk bytes.toArray).toList = bytes := by
  rw [ByteArray.toList, toList_loop]
  rfl

theorem Text.toUTF8_eq (s : String) : s.toUTF8 = ⟨(s.toList.flatMap String.utf8EncodeChar).toArray⟩ := by
  have hlist : (String.ofList s.toList).toByteArray = s.toList.utf8Encode := String.toByteArray_ofList
  rw [String.ofList_toList, List.utf8Encode] at hlist
  rw [String.toUTF8_eq_toByteArray, hlist]
  ext1
  exact List.data_toByteArray

theorem Text.toList_toUTF8 (s : String) : s.toUTF8.toList = s.toList.flatMap String.utf8EncodeChar := by
  rw [toUTF8_eq, toList_mk]

theorem Text.length_toUTF8 (s : String) : s.toUTF8.toList.length = s.toUTF8.size := by
  rw [toList_toUTF8, toUTF8_eq]
  rfl

theorem Text.toList_toUTF8_append (s t : String) : (s ++ t).toUTF8.toList = s.toUTF8.toList ++ t.toUTF8.toList := by
  simp only [toList_toUTF8, String.toList_append, List.flatMap_append]

theorem Text.utf8EncodeChar_ascii {c : Char} (h : c.toNat ≤ 127) :
    String.utf8EncodeChar c = [UInt8.ofNat c.toNat] := if_pos h

theorem Text.le_of_mem_utf8EncodeChar {c : Char} (h : 127 < c.toNat) {b : UInt8} (hb : b ∈ String.utf8EncodeChar c) :
    128 ≤ b.toNat := by
  have hv : ¬c.val.toNat ≤ 127 := Nat.not_le.mpr h
  simp only [String.utf8EncodeChar, if_neg hv] at hb
  split at hb
  · simp only [List.mem_cons, List.not_mem_nil, or_false] at hb
    rcases hb with rfl | rfl <;> rw [UInt8.toNat_ofNat'] <;> omega
  split at hb
  · simp only [List.mem_cons, List.not_mem_nil, or_false] at hb
    rcases hb with rfl | rfl | rfl <;> rw [UInt8.toNat_ofNat'] <;> omega
  · simp only [List.mem_cons, List.not_mem_nil, or_false] at hb
    rcases hb with rfl | rfl | rfl | rfl <;> rw [UInt8.toNat_ofNat'] <;> omega

/-! ### Numerals -/

namespace Text.Numeral
variable {bound value n : Nat} {beyond : Fault} {c : Char} {cs : List Char} {r : Range}

theorem isDigit_iff : c.isDigit = true ↔ '0' ≤ c ∧ c ≤ '9' := by
  simp [Char.isDigit, Char.le_def]

theorem digit?_of_isDigit (h : c.isDigit = true) : digit? c = some (c.toNat - 48) := if_pos (isDigit_iff.mp h)

theorem toNat_of_isDigit (h : c.isDigit = true) : 48 ≤ c.toNat ∧ c.toNat ≤ 57 := by
  obtain ⟨hlow, hhigh⟩ := isDigit_iff.mp h
  exact ⟨UInt32.le_iff_toNat_le.mp hlow, UInt32.le_iff_toNat_le.mp hhigh⟩

theorem digit?_of_not_isDigit (h : c.isDigit = false) : digit? c = none :=
  if_neg fun hle => by rw [isDigit_iff.mpr hle] at h; cases h

theorem ofDigitChars_cons (cs : List Char) (c : Char) (value : Nat) :
    Nat.ofDigitChars 10 (c :: cs) value = Nat.ofDigitChars 10 cs (value * 10 + (c.toNat - 48)) := by
  rw [Nat.ofDigitChars, List.foldl_cons, Nat.mul_comm]
  rfl

theorem le_ofDigitChars (cs : List Char) (value : Nat) : value ≤ Nat.ofDigitChars 10 cs value := by
  induction cs generalizing value with
  | nil => exact Nat.le_refl _
  | cons c cs ih =>
    rw [ofDigitChars_cons]
    exact Nat.le_trans (by omega) (ih _)

/-- Digits are read as the number they denote, if it is within the bound. -/
theorem magnitude_eq (hdigits : ∀ c ∈ cs, c.isDigit = true) (h : Nat.ofDigitChars 10 cs value ≤ bound) :
    magnitude bound beyond value cs = .ok (Nat.ofDigitChars 10 cs value) := by
  induction cs generalizing value with
  | nil => rfl
  | cons c cs ih =>
    rw [ofDigitChars_cons] at h ⊢
    rw [magnitude, digit?_of_isDigit (hdigits c List.mem_cons_self)]
    dsimp only
    rw [if_pos (Nat.le_trans (le_ofDigitChars cs _) h)]
    exact ih (fun c hc => hdigits c (List.mem_cons_of_mem _ hc)) h

theorem readChars_of_isDigit (h : c.isDigit = true) :
    readChars r (c :: cs) = (magnitude r.high.toNat .tooLarge 0 (c :: cs)).map Int.ofNat := by
  have hplus : c ≠ '+' := by rintro rfl; cases h
  have hminus : c ≠ '-' := by rintro rfl; cases h
  refine readChars.eq_6 r (c :: cs) nofun ?_ ?_ ?_ ?_
  · exact fun he => hplus (List.cons.inj he).1
  · exact fun he => hminus (List.cons.inj he).1
  · exact fun _ he => hplus (List.cons.inj he).1
  · exact fun _ he => hminus (List.cons.inj he).1

theorem toList_toString {n : Int} (h : 0 ≤ n) : (toString n).toList = Nat.toDigits 10 n.toNat := by
  obtain ⟨k, rfl⟩ := Int.eq_ofNat_of_zero_le h
  exact Nat.toList_repr

theorem isDigit_of_mem_toString {n : Int} (h : 0 ≤ n) (hc : c ∈ (toString n).toList) : c.isDigit = true := by
  rw [toList_toString h] at hc
  exact Nat.isDigit_of_mem_toDigits (by decide) (by decide) hc

/-- A number that is not negative is read from its text. -/
theorem read?_toString {n : Int} (h : 0 ≤ n) (hn : n ≤ r.high) : read? r (toString n) = some n := by
  have hdigits : ∀ c ∈ Nat.toDigits 10 n.toNat, c.isDigit = true := fun c hc =>
    isDigit_of_mem_toString h (by rwa [toList_toString h])
  have hvalue : Nat.ofDigitChars 10 (Nat.toDigits 10 n.toNat) 0 = n.toNat := Nat.ofDigitChars_ten_toDigits
  have hread : readChars r (Nat.toDigits 10 n.toNat) = .ok n := by
    obtain ⟨c, cs, hcons⟩ := List.exists_cons_of_ne_nil (Nat.toDigits_ne_nil (n := n.toNat) (b := 10))
    rw [hcons] at hdigits hvalue ⊢
    rw [readChars_of_isDigit (hdigits c List.mem_cons_self), magnitude_eq hdigits (by omega), hvalue]
    exact congrArg Except.ok (Int.toNat_of_nonneg h)
  rw [read?, read, toList_toString h, hread]
  rfl

/-- In a range without negative numbers none is read. -/
theorem nonneg_of_read? {n : Int} {s : String} (hlow : r.low = 0) (h : read? r s = some n) : 0 ≤ n := by
  have hmap {x : Except Fault Nat} (hx : (x.map Int.ofNat).toOption = some n) : 0 ≤ n := by
    cases x with
    | error e => cases hx
    | ok k =>
      cases hx
      exact Int.natCast_nonneg k
  unfold read? read readChars at h
  split at h
  case h_1 | h_2 | h_3 => cases h
  case h_4 => exact hmap h
  case h_5 =>
    rw [if_neg (by omega)] at h
    cases h
  case h_6 => exact hmap h

end Text.Numeral

/-! ### Trimming and splitting -/

namespace Text

theorem isBlank_of_isDigit {c : Char} (h : c.isDigit = true) : isBlank c = false := by
  have hrange := Numeral.toNat_of_isDigit h
  rw [← Bool.not_eq_true]
  intro hblank
  simp [isBlank] at hblank
  omega

theorem dropWhile_eq {α : Type} {p : α → Bool} {l : List α} (h : ∀ x ∈ l.head?, p x = false) : l.dropWhile p = l := by
  cases l with
  | nil => rfl
  | cons x l => exact List.dropWhile_cons_of_neg (by simp [h x rfl])

/-- No blank stands at either end. -/
structure Trimmed (cs : List Char) : Prop where
  first : ∀ c ∈ cs.head?, isBlank c = false
  last : ∀ c ∈ cs.getLast?, isBlank c = false

theorem Trimmed.trimBlanks_eq {cs : List Char} (h : Trimmed cs) : trimBlanks cs = cs := by
  rw [trimBlanks, dropWhile_eq h.first, dropWhile_eq (List.head?_reverse ▸ h.last), List.reverse_reverse]

theorem trimmed_trimBlanks (cs : List Char) : Trimmed (trimBlanks cs) := by
  have hhead (l : List Char) : ∀ c ∈ (l.dropWhile isBlank).head?, isBlank c = false := fun c hc => by
    have hnot := List.head?_dropWhile_not isBlank l
    rw [Option.mem_def] at hc
    rwa [hc] at hnot
  refine ⟨fun c hc => hhead cs c ?_, fun c hc => hhead _ c (List.getLast?_reverse ▸ hc)⟩
  -- What trimming the end leaves begins as the list that it is taken from.
  have hprefix : trimBlanks cs <+: cs.dropWhile isBlank := List.rdropWhile_prefix ..
  obtain ⟨rest, hrest⟩ := hprefix
  rw [← hrest, List.head?_append, Option.mem_def.mp hc]
  rfl

theorem trim_trim (s : String) : trim (trim s) = trim s := by
  rw [trim, trim, String.toList_ofList, (trimmed_trimBlanks _).trimBlanks_eq]

theorem trimBlanks_eq {cs : List Char} (h : ∀ c ∈ cs, isBlank c = false) : trimBlanks cs = cs :=
  Trimmed.trimBlanks_eq ⟨fun c hc => h c (List.mem_of_head? hc), fun c hc => h c (List.mem_of_getLast? hc)⟩

theorem trimmed?_eq {s : String} (h : ∀ c ∈ s.toList, isBlank c = false) (hne : s ≠ "") : trimmed? s = some s := by
  have htrim : trim s = s := by rw [trim, trimBlanks_eq h, String.ofList_toList]
  have hempty : s.isEmpty = false := by simpa using hne
  rw [trimmed?, htrim, hempty]
  rfl

theorem splitAt?_eq {sep : Char} {a : List Char} (h : sep ∉ a) (b : List Char) :
    splitAt? sep (a ++ sep :: b) = some (a, b) := by
  induction a with
  | nil => exact if_pos rfl
  | cons c a ih =>
    obtain ⟨hc, ha⟩ := not_or.mp (mt List.mem_cons.mpr h)
    rw [List.cons_append, splitAt?, if_neg (Ne.symm hc), ih ha]
    rfl

theorem splitAt?_eq_none {sep : Char} {cs : List Char} : splitAt? sep cs = none ↔ sep ∉ cs := by
  induction cs with
  | nil => simp [splitAt?]
  | cons c cs ih =>
    rw [splitAt?]
    by_cases hc : c = sep
    · simp [hc]
    · simp [hc, ih, Ne.symm hc]

/-- A list is split at the first place where the separator stands. -/
theorem splitAt?_eq_some {sep : Char} {cs a b : List Char} :
    splitAt? sep cs = some (a, b) ↔ cs = a ++ sep :: b ∧ sep ∉ a := by
  constructor
  · intro h
    have hmem : sep ∈ cs := by
      by_contra hnot
      rw [splitAt?_eq_none.mpr hnot] at h
      cases h
    obtain ⟨front, back, rfl, hfront⟩ := List.eq_append_cons_of_mem hmem
    rw [splitAt?_eq hfront] at h
    cases h
    exact ⟨rfl, hfront⟩
  · rintro ⟨rfl, ha⟩
    exact splitAt?_eq ha b

theorem splitOnce_eq_none {sep : Char} {s : String} : splitOnce sep s = none ↔ sep ∉ s.toList := by
  rw [splitOnce, Option.map_eq_none_iff, splitAt?_eq_none]

theorem splitOnce_eq_some {sep : Char} {s a b : String} :
    splitOnce sep s = some (a, b) ↔ s.toList = a.toList ++ sep :: b.toList ∧ sep ∉ a.toList := by
  rw [splitOnce, ← splitAt?_eq_some, Option.map_eq_some_iff]
  constructor
  · rintro ⟨⟨front, back⟩, hsplit, he⟩
    cases he
    simpa using hsplit
  · intro hsplit
    exact ⟨_, hsplit, by simp⟩

/-! ### Parts between separators -/

theorem splitList_eq {α : Type} (p : α → Bool) (xs : List α) : splitList p xs = xs.splitOnP p := by
  induction xs with
  | nil => rfl
  | cons x xs ih =>
    rw [List.splitOnP_cons_eq_if_modifyHead, ← ih, splitList, List.foldr_cons, ← splitList]
    obtain ⟨part, rest, hparts⟩ := List.exists_cons_of_ne_nil (splitList_ne_nil p xs)
    rw [hparts]
    rfl

/-- No part holds a separator. -/
theorem not_of_mem_splitList {α : Type} {p : α → Bool} {xs part : List α} (h : part ∈ splitList p xs) :
    ∀ x ∈ part, p x = false := by
  induction xs generalizing part with
  | nil =>
    rw [List.mem_singleton.mp h]
    exact List.forall_mem_nil _
  | cons x xs ih =>
    obtain ⟨first, rest, hparts⟩ := List.exists_cons_of_ne_nil (splitList_ne_nil p xs)
    rw [hparts] at ih
    rw [splitList, List.foldr_cons, ← splitList, hparts] at h
    by_cases hx : p x = true
    · rw [if_pos hx] at h
      rcases List.mem_cons.mp h with rfl | h
      · exact List.forall_mem_nil _
      · exact ih h
    · rw [if_neg hx] at h
      rcases List.mem_cons.mp h with rfl | h
      · exact List.forall_mem_cons.mpr ⟨Bool.eq_false_iff.mpr hx, ih (.head _)⟩
      · exact ih (.tail _ h)

theorem intercalate_splitList (sep : Char) (cs : List Char) :
    [sep].intercalate (splitList (· == sep) cs) = cs := by
  rw [splitList_eq, ← List.splitOn_eq_splitOnP, List.intercalate_splitOn]

theorem intercalate_cons (sep part : List Char) (parts : List (List Char)) :
    sep.intercalate (part :: parts) = part ++ parts.flatMap (sep ++ ·) := by
  induction parts generalizing part with
  | nil => simp [List.intercalate]
  | cons part' parts ih =>
    have hstep : sep.intercalate (part :: part' :: parts) = part ++ sep ++ sep.intercalate (part' :: parts) := by
      simp [List.intercalate]
    rw [hstep, ih, List.flatMap_cons, List.append_assoc, List.append_assoc]

/-- The parts between the commas of a text, trimmed, those left out of which nothing is left. -/
theorem commaParts_eq (s : String) :
    commaParts s = ((s.toList.splitOn ',').map fun part => trim (String.ofList part)).filter (· ≠ "") := by
  have hpart (part : List Char) : (let t := trimBlanks part; if t.isEmpty then none else some (String.ofList t)) =
      if trim (String.ofList part) ≠ "" then some (trim (String.ofList part)) else none := by
    rw [trim, String.toList_ofList]
    cases trimBlanks part <;> simp
  rw [commaParts, splitList_eq, List.splitOn_eq_splitOnP, ← List.filterMap_eq_filter, List.filterMap_map]
  refine List.filterMap_congr fun part _ => (hpart part).trans ?_
  simp [Option.guard]

theorem commaParts_append (a b : List Char) :
    commaParts (String.ofList (a ++ ',' :: b)) = commaParts (String.ofList a) ++ commaParts (String.ofList b) := by
  simp only [commaParts, String.toList_ofList, splitList_eq]
  rw [List.splitOnP_append_cons a b (by rfl), List.filterMap_append]

/-- A text without a comma is its only part, unless nothing is left of it. -/
theorem commaParts_single {cs : List Char} (h : ',' ∉ cs) :
    commaParts (String.ofList cs) = [trim (String.ofList cs)].filter (· ≠ "") := by
  have hsep : ∀ c ∈ cs, (c == ',') = false := fun c hc => by
    rw [beq_eq_false_iff_ne]
    rintro rfl
    exact h hc
  rw [commaParts_eq, String.toList_ofList, List.splitOn_eq_splitOnP, List.splitOnP_eq_singleton hsep,
    List.map_singleton]

/-! ### Blanks around texts -/

/-- What is trimmed of a list stands before and after the rest. -/
theorem exists_blanks (cs : List Char) : ∃ front back, cs = front ++ trimBlanks cs ++ back ∧
    (∀ c ∈ front, isBlank c = true) ∧ ∀ c ∈ back, isBlank c = true := by
  refine ⟨cs.takeWhile isBlank, (cs.dropWhile isBlank).rtakeWhile isBlank, ?_, fun c hc => List.mem_takeWhile_imp hc,
    fun c hc => List.mem_rtakeWhile_imp hc⟩
  have hrest : trimBlanks cs ++ (cs.dropWhile isBlank).rtakeWhile isBlank = cs.dropWhile isBlank :=
    List.rdropWhile_append_rtakeWhile ..
  rw [List.append_assoc, hrest, List.takeWhile_append_dropWhile]

section Padded
variable {front back : List Char} (hfront : ∀ c ∈ front, isBlank c = true) (hback : ∀ c ∈ back, isBlank c = true)
include hfront hback

theorem trimBlanks_padded (cs : List Char) : trimBlanks (front ++ cs ++ back) = trimBlanks cs := by
  have hdrop : (front ++ cs ++ back).dropWhile isBlank = (cs ++ back).dropWhile isBlank := by
    rw [List.append_assoc, List.dropWhile_append_of_pos hfront]
  rw [trimBlanks, hdrop, List.dropWhile_append]
  by_cases hempty : (cs.dropWhile isBlank).isEmpty = true
  · rw [if_pos hempty, List.dropWhile_eq_nil_iff.mpr hback, trimBlanks, List.isEmpty_iff.mp hempty]
  · rw [if_neg hempty, List.reverse_append, List.dropWhile_append_of_pos (by simpa using hback), trimBlanks]

/-- The blanks belong to the first part and the last. By induction on the text, of which the first part is taken off. -/
theorem commaParts_padded (cs : List Char) :
    commaParts (String.ofList (front ++ cs ++ back)) = commaParts (String.ofList cs) := by
  suffices hpart : ∀ part : List Char, ',' ∉ part →
      commaParts (String.ofList (front ++ (part ++ cs) ++ back)) = commaParts (String.ofList (part ++ cs)) from
    hpart [] List.not_mem_nil
  have hnone (blanks : List Char) (h : ∀ c ∈ blanks, isBlank c = true) : ',' ∉ blanks :=
    fun hc => absurd (h ',' hc) (by decide)
  induction cs generalizing front with
  | nil =>
    intro part hpart
    have hwhole : ',' ∉ front ++ part ++ back := by simp [hpart, hnone _ hfront, hnone _ hback]
    rw [List.append_nil, commaParts_single hwhole, commaParts_single hpart, trim, trim, String.toList_ofList,
      String.toList_ofList, trimBlanks_padded hfront hback]
  | cons c cs ih =>
    intro part hpart
    by_cases hc : c = ','
    · subst hc
      have hfirst : ',' ∉ front ++ part := by simp [hpart, hnone _ hfront]
      have hnil : ∀ c ∈ ([] : List Char), isBlank c = true := nofun
      have htrim := trimBlanks_padded hfront hnil part
      rw [List.append_nil] at htrim
      have hrest := ih hnil [] List.not_mem_nil
      rw [List.nil_append, List.nil_append] at hrest
      rw [commaParts_append, commaParts_single hpart, ← List.append_assoc, List.append_assoc, List.cons_append,
        commaParts_append, commaParts_single hfirst, hrest, trim, trim, String.toList_ofList, String.toList_ofList,
        htrim]
    · have hnext := ih hfront (part ++ [c]) (by simp [hpart, Ne.symm hc])
      rwa [← List.append_cons] at hnext

end Padded

theorem commaParts_trim (s : String) : commaParts (trim s) = commaParts s := by
  obtain ⟨front, back, hcs, hfront, hback⟩ := exists_blanks s.toList
  have hpadded := commaParts_padded hfront hback (trimBlanks s.toList)
  rw [← hcs, String.ofList_toList] at hpadded
  exact hpadded.symm

section Sides
variable {sep : Char} (hsep : isBlank sep = false)
include hsep

theorem not_mem_blanks {blanks : List Char} (h : ∀ c ∈ blanks, isBlank c = true) : sep ∉ blanks := fun hmem => by
  rw [h sep hmem] at hsep
  cases hsep

/-- A separator that is no blank is not trimmed away. -/
theorem mem_trim (s : String) : sep ∈ (trim s).toList ↔ sep ∈ s.toList := by
  obtain ⟨front, back, hs, hfront, hback⟩ := exists_blanks s.toList
  rw [trim, String.toList_ofList]
  conv_rhs => rw [hs]
  simp [not_mem_blanks hsep hfront, not_mem_blanks hsep hback]

/-- The blanks around a text are around its two sides. -/
theorem splitOnce_trim {s a b : String} (h : splitOnce sep s = some (a, b)) :
    ∃ a' b', splitOnce sep (trim s) = some (a', b') ∧ trim a' = trim a ∧ trim b' = trim b := by
  obtain ⟨front, back, hs, hfront, hback⟩ := exists_blanks s.toList
  have hnil : ∀ c ∈ ([] : List Char), isBlank c = true := nofun
  cases hsplit : splitOnce sep (trim s) with
  | none =>
    rw [splitOnce_eq_none, mem_trim hsep, ← splitOnce_eq_none, h] at hsplit
    cases hsplit
  | some sides =>
    obtain ⟨a', b'⟩ := sides
    obtain ⟨htrim, ha'⟩ := splitOnce_eq_some.mp hsplit
    rw [trim, String.toList_ofList] at htrim
    have hparts : splitOnce sep s = some (String.ofList (front ++ a'.toList), String.ofList (b'.toList ++ back)) := by
      rw [splitOnce_eq_some, hs, htrim]
      simp [not_mem_blanks hsep hfront, ha']
    rw [h] at hparts
    cases hparts
    have ha := trimBlanks_padded hfront hnil a'.toList
    have hb := trimBlanks_padded hnil hback b'.toList
    rw [List.append_nil] at ha
    rw [List.nil_append] at hb
    refine ⟨a', b', rfl, ?_, ?_⟩
    · rw [trim, trim, String.toList_ofList, ha]
    · rw [trim, trim, String.toList_ofList, hb]

end Sides
end Text

end Pasteboard
