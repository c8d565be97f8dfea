import Pasteboard.Proofs.Text.Reading
/-!
What a numeral says.

A text is read as a number of a range if and only if it consists of at least one digit, perhaps behind a sign, and says
a number of the range. Zeros in front do not count, however many they are. A minus is a sign only in a range that has
negative numbers, not even before a zero in another.
-/

namespace Pasteboard.Text.Numeral

/-- Characters are digits, at least one, and the number that they denote. -/
structure Digits (cs : List Char) (n : Nat) : Prop where
  nonempty : cs ≠ []
  digits : ∀ c ∈ cs, c.isDigit = true
  value : Nat.ofDigitChars 10 cs 0 = n

/-- Characters are the digits of a number, perhaps behind a plus. -/
inductive Unsigned : List Char → Nat → Prop
  | plain {cs : List Char} {n : Nat} (digits : Digits cs n) : Unsigned cs n
  | plus {cs : List Char} {n : Nat} (digits : Digits cs n) : Unsigned ('+' :: cs) n

/-- Characters are the digits of a number, perhaps behind a sign. -/
inductive Signed : List Char → Int → Prop
  | unsigned {cs : List Char} {n : Nat} (number : Unsigned cs n) : Signed cs n
  | minus {cs : List Char} {n : Nat} (digits : Digits cs n) : Signed ('-' :: cs) (-n)

variable {r : Range} {cs : List Char} {s : String} {bound value n : Nat} {beyond : Fault} {m : Int}

theorem Digits.not_mem {c : Char} (h : Digits cs n) (hc : c.isDigit = false) : c ∉ cs := fun hmem => by
  rw [h.digits c hmem] at hc
  cases hc

theorem Unsigned.not_mem {c : Char} (h : Unsigned cs n) (hc : c.isDigit = false) (hplus : c ≠ '+') : c ∉ cs := by
  cases h with
  | plain digits => exact digits.not_mem hc
  | plus digits => exact List.not_mem_cons_of_ne_of_not_mem hplus (digits.not_mem hc)

/-! ### Reading -/

theorem magnitude_eq_ok (hvalue : value ≤ bound) : magnitude bound beyond value cs = .ok n ↔
    (∀ c ∈ cs, c.isDigit = true) ∧ Nat.ofDigitChars 10 cs value = n ∧ n ≤ bound := by
  constructor
  · intro h
    induction cs generalizing value with
    | nil =>
      cases h
      exact ⟨fun c hc => absurd hc List.not_mem_nil, rfl, hvalue⟩
    | cons c cs ih =>
      rw [magnitude] at h
      cases hc : c.isDigit with
      | false =>
        rw [digit?_of_not_isDigit hc] at h
        cases h
      | true =>
        rw [digit?_of_isDigit hc] at h
        dsimp only at h
        by_cases hle : value * 10 + (c.toNat - 48) ≤ bound
        · rw [if_pos hle] at h
          obtain ⟨hdigits, hvalue', hn⟩ := ih hle h
          exact ⟨List.forall_mem_cons.mpr ⟨hc, hdigits⟩, by rw [ofDigitChars_cons, hvalue'], hn⟩
        · rw [if_neg hle] at h
          cases h
  · rintro ⟨hdigits, rfl, hn⟩
    exact magnitude_eq hdigits hn

/-- Digits after a sign are read onto zero. -/
theorem magnitude_zero (hne : cs ≠ []) : magnitude bound beyond 0 cs = .ok n ↔ Digits cs n ∧ n ≤ bound := by
  rw [magnitude_eq_ok (Nat.zero_le _)]
  exact ⟨fun ⟨hdigits, hvalue, hn⟩ => ⟨⟨hne, hdigits, hvalue⟩, hn⟩, fun ⟨h, hn⟩ => ⟨h.digits, h.value, hn⟩⟩

theorem map_eq_ok {f : Nat → Int} {x : Except Fault Nat} : x.map f = .ok m ↔ ∃ n, x = .ok n ∧ m = f n := by
  cases x <;> simp [Except.map, eq_comm]

theorem readChars_plus (hne : cs ≠ []) :
    readChars r ('+' :: cs) = (magnitude r.high.toNat .tooLarge 0 cs).map Int.ofNat := readChars.eq_4 r cs hne

theorem readChars_minus (hne : cs ≠ []) : readChars r ('-' :: cs) =
    if r.low < 0 then (magnitude (-r.low).toNat .tooSmall 0 cs).map fun n => -Int.ofNat n else .error .notDigit :=
  readChars.eq_5 r cs hne

theorem readChars_digits (h : Digits cs n) :
    readChars r cs = (magnitude r.high.toNat .tooLarge 0 cs).map Int.ofNat := by
  obtain ⟨c, rest, rfl⟩ := List.exists_cons_of_ne_nil h.nonempty
  exact readChars_of_isDigit (h.digits c List.mem_cons_self)

theorem readChars_eq_ok : readChars r cs = .ok m ↔ (∃ n : Nat, Unsigned cs n ∧ n ≤ r.high.toNat ∧ m = n) ∨
    (r.low < 0 ∧ ∃ (ds : List Char) (n : Nat), cs = '-' :: ds ∧ Digits ds n ∧ n ≤ (-r.low).toNat ∧ m = -n) := by
  constructor
  · intro h
    unfold readChars at h
    split at h
    case h_1 | h_2 | h_3 => cases h
    case h_4 ds hne =>
      obtain ⟨n, hread, rfl⟩ := map_eq_ok.mp h
      obtain ⟨hdigits, hn⟩ := (magnitude_zero hne).mp hread
      exact Or.inl ⟨n, .plus hdigits, hn, rfl⟩
    case h_5 ds hne =>
      by_cases hlow : r.low < 0
      · rw [if_pos hlow] at h
        obtain ⟨n, hread, rfl⟩ := map_eq_ok.mp h
        obtain ⟨hdigits, hn⟩ := (magnitude_zero hne).mp hread
        exact Or.inr ⟨hlow, ds, n, rfl, hdigits, hn, rfl⟩
      · rw [if_neg hlow] at h
        cases h
    case h_6 hne _ _ _ _ =>
      obtain ⟨n, hread, rfl⟩ := map_eq_ok.mp h
      obtain ⟨hdigits, hn⟩ := (magnitude_zero hne).mp hread
      exact Or.inl ⟨n, .plain hdigits, hn, rfl⟩
  · rintro (⟨n, hnumber, hn, rfl⟩ | ⟨hlow, ds, n, rfl, hdigits, hn, rfl⟩)
    · cases hnumber with
      | plain hdigits =>
        rw [readChars_digits hdigits]
        exact map_eq_ok.mpr ⟨n, (magnitude_zero hdigits.nonempty).mpr ⟨hdigits, hn⟩, rfl⟩
      | plus hdigits =>
        rw [readChars_plus hdigits.nonempty]
        exact map_eq_ok.mpr ⟨n, (magnitude_zero hdigits.nonempty).mpr ⟨hdigits, hn⟩, rfl⟩
    · rw [readChars_minus hdigits.nonempty, if_pos hlow]
      exact map_eq_ok.mpr ⟨n, (magnitude_zero hdigits.nonempty).mpr ⟨hdigits, hn⟩, rfl⟩

theorem read?_eq_some : read? r s = some m ↔ readChars r s.toList = .ok m := by
  rw [read?, read]
  cases readChars r s.toList <;> simp [Except.toOption]

/-- In a range that begins with zero a numeral has no minus. -/
theorem read?_unsigned (hlow : r.low = 0) (hhigh : 0 ≤ r.high) :
    read? r s = some (n : Int) ↔ Unsigned s.toList n ∧ (n : Int) ≤ r.high := by
  rw [read?_eq_some, readChars_eq_ok]
  constructor
  · rintro (⟨k, hnumber, hk, hn⟩ | ⟨hneg, -⟩)
    · obtain rfl : n = k := Int.ofNat.inj hn
      exact ⟨hnumber, by omega⟩
    · omega
  · rintro ⟨hnumber, hn⟩
    exact Or.inl ⟨n, hnumber, by omega, rfl⟩

/-- In a range with numbers below zero a numeral has any sign. -/
theorem read?_signed (hlow : r.low < 0) (hhigh : 0 ≤ r.high) :
    read? r s = some m ↔ Signed s.toList m ∧ r.low ≤ m ∧ m ≤ r.high := by
  rw [read?_eq_some, readChars_eq_ok]
  constructor
  · rintro (⟨n, hnumber, hn, rfl⟩ | ⟨-, ds, n, hs, hdigits, hn, rfl⟩)
    · exact ⟨.unsigned hnumber, by omega, by omega⟩
    · exact ⟨hs ▸ .minus hdigits, by omega, by omega⟩
  · rintro ⟨hnumber, hmin, hmax⟩
    generalize hcs : s.toList = cs at hnumber ⊢
    cases hnumber with
    | @unsigned _ n hnumber => exact Or.inl ⟨n, hnumber, by omega, rfl⟩
    | @minus ds n hdigits => exact Or.inr ⟨hlow, ds, n, rfl, hdigits, by omega, rfl⟩

/-! ### Writing -/

theorem digitChar_eq {c : Char} (h : c.isDigit = true) : Nat.digitChar (c.toNat - 48) = c := by
  have hrange := toNat_of_isDigit h
  apply Char.toNat_inj.mp
  rw [Nat.toNat_digitChar_of_lt_ten (by omega)]
  omega

/-- Digits behind a number are further digits of it. -/
theorem toDigits_ofDigitChars (hpos : 0 < value) (hdigits : ∀ c ∈ cs, c.isDigit = true) :
    Nat.toDigits 10 (Nat.ofDigitChars 10 cs value) = Nat.toDigits 10 value ++ cs := by
  induction cs generalizing value with
  | nil => rw [Nat.ofDigitChars_nil, List.append_nil]
  | cons c cs ih =>
    obtain ⟨hc, hcs⟩ := List.forall_mem_cons.mp hdigits
    have hrange := toNat_of_isDigit hc
    have hlast : c.toNat - 48 < 10 := by omega
    have hnext : Nat.toDigits 10 (value * 10 + (c.toNat - 48)) = Nat.toDigits 10 value ++ [c] := by
      rw [Nat.mul_comm, ← Nat.toDigits_append_toDigits (by decide) hpos hlast, Nat.toDigits_of_lt_base hlast,
        digitChar_eq hc]
    rw [ofDigitChars_cons, ih (by omega) hcs, hnext, List.append_assoc, List.singleton_append]

/-- Digits are those in which their number is written, unless there are more of them behind a zero. -/
theorem Digits.eq_toDigits (h : Digits cs n) (hzero : cs.head? = some '0' → cs.length = 1) :
    cs = Nat.toDigits 10 n := by
  obtain ⟨c, rest, rfl⟩ := List.exists_cons_of_ne_nil h.nonempty
  obtain ⟨hc, hrest⟩ := List.forall_mem_cons.mp h.digits
  have hrange := toNat_of_isDigit hc
  have hfirst : c.toNat - 48 < 10 := by omega
  have hchar := digitChar_eq hc
  rw [← h.value, ofDigitChars_cons, Nat.zero_mul, Nat.zero_add]
  rcases Nat.eq_zero_or_pos (c.toNat - 48) with hvalue | hpos
  · rw [hvalue] at hchar ⊢
    subst hchar
    have hnil : rest = [] := List.eq_nil_of_length_eq_zero (Nat.succ.inj (hzero rfl))
    rw [hnil]
    rfl
  · rw [toDigits_ofDigitChars hpos hrest, Nat.toDigits_of_lt_base hfirst, hchar, List.singleton_append]

end Pasteboard.Text.Numeral
