import Pasteboard.Net.Address
import Pasteboard.Proofs.Text.Numeral
/-!
The dotted text of an address is read back as that address, and no other text is read as it.

Each octet is written without leading zeros and in at most three digits, and a dot ends it. So addresses with the
same text are the same, and nothing but digits and dots stands in a text.
-/

namespace Pasteboard.Net

open Text

variable {cs rest : List Char} {n value count k : Nat}

/-- Digits are taken up to the first character that is none. -/
theorem takeDigits_append (hdigits : ∀ c ∈ cs, c.isDigit = true) (hrest : ∀ c ∈ rest.head?, c.isDigit = false)
    (h : Nat.ofDigitChars 10 cs value ≤ beyondAll) :
    takeDigits Numeral.digit? 10 value count (cs ++ rest) =
      (Nat.ofDigitChars 10 cs value, count + cs.length, rest) := by
  induction cs generalizing value count with
  | nil =>
    cases rest with
    | nil => rfl
    | cons c rest =>
      rw [List.nil_append, takeDigits, Numeral.digit?_of_not_isDigit (hrest c rfl)]
      rfl
  | cons c cs ih =>
    rw [Numeral.ofDigitChars_cons] at h ⊢
    have hmin : min (value * 10 + (c.toNat - 48)) beyondAll = value * 10 + (c.toNat - 48) :=
      Nat.min_eq_left (Nat.le_trans (Numeral.le_ofDigitChars cs _) h)
    rw [List.cons_append, takeDigits, Numeral.digit?_of_isDigit (hdigits c List.mem_cons_self)]
    dsimp only
    rw [hmin, ih (fun c hc => hdigits c (List.mem_cons_of_mem _ hc)) h, List.length_cons]
    congr 2
    omega

/-- The digits of an octet: at most three, and a zero stands first only alone. -/
theorem toDigits_octet : ∀ n : Fin 256, (Nat.toDigits 10 n).length ≤ 3 ∧
    ((Nat.toDigits 10 n).head? = some '0' → (Nat.toDigits 10 n).length = 1) := by
  decide +kernel

theorem octet?_toDigits (h : n < 256) (hrest : ∀ c ∈ rest.head?, c.isDigit = false) :
    octet? (Nat.toDigits 10 n ++ rest) = some (n, rest) := by
  obtain ⟨hlength, hzero⟩ := toDigits_octet ⟨n, h⟩
  dsimp only at hlength hzero
  have hne : Nat.toDigits 10 n ≠ [] := Nat.toDigits_ne_nil
  have hpos : 0 < (Nat.toDigits 10 n).length := List.length_pos_iff.mpr hne
  have hdigits : ∀ c ∈ Nat.toDigits 10 n, c.isDigit = true := fun c hc =>
    Nat.isDigit_of_mem_toDigits (by decide) (by decide) hc
  have hvalue : Nat.ofDigitChars 10 (Nat.toDigits 10 n) 0 = n := Nat.ofDigitChars_ten_toDigits
  have htake : takeDigits Numeral.digit? 10 0 0 (Nat.toDigits 10 n ++ rest) =
      (n, (Nat.toDigits 10 n).length, rest) := by
    rw [takeDigits_append hdigits hrest (by rw [hvalue, beyondAll]; omega), hvalue, Nat.zero_add]
  have hhead : (Nat.toDigits 10 n ++ rest).head? = (Nat.toDigits 10 n).head? := by
    rw [List.head?_append, List.head?_eq_some_head hne, Option.some_or]
  rw [octet?, htake, hhead]
  dsimp only
  rw [if_neg (by omega), if_neg fun hlead => by have := hzero hlead.1; omega]

theorem le_takeDigits (h : takeDigits Numeral.digit? 10 value count cs = (n, k, rest)) (hvalue : value ≤ beyondAll) :
    value ≤ n := by
  induction cs generalizing value count with
  | nil =>
    cases h
    exact Nat.le_refl _
  | cons c cs ih =>
    rw [takeDigits] at h
    split at h
    · have hle := ih h (Nat.min_le_right _ _)
      omega
    · cases h
      exact Nat.le_refl _

/-- What is taken are digits, and if their number is not beyond all, it is the number that was read. -/
theorem takeDigits_eq (h : takeDigits Numeral.digit? 10 value count cs = (n, k, rest)) (hn : n < beyondAll) :
    ∃ ds, cs = ds ++ rest ∧ (∀ c ∈ ds, c.isDigit = true) ∧ k = count + ds.length ∧
      n = Nat.ofDigitChars 10 ds value := by
  induction cs generalizing value count with
  | nil =>
    cases h
    exact ⟨[], rfl, nofun, rfl, rfl⟩
  | cons c cs ih =>
    rw [takeDigits] at h
    cases hc : c.isDigit with
    | false =>
      rw [Numeral.digit?_of_not_isDigit hc] at h
      cases h
      exact ⟨[], rfl, nofun, rfl, rfl⟩
    | true =>
      rw [Numeral.digit?_of_isDigit hc] at h
      dsimp only at h
      have hle := le_takeDigits h (Nat.min_le_right _ _)
      obtain ⟨ds, rfl, hds, rfl, hvalue⟩ := ih h
      have hmin : min (value * 10 + (c.toNat - 48)) beyondAll = value * 10 + (c.toNat - 48) := by omega
      refine ⟨c :: ds, rfl, List.forall_mem_cons.mpr ⟨hc, hds⟩, by rw [List.length_cons]; omega, ?_⟩
      rw [Numeral.ofDigitChars_cons, ← hmin]
      exact hvalue

/-- An octet has the digits in which it is written. -/
theorem octet?_eq_some (h : octet? cs = some (n, rest)) : n < 256 ∧ cs = Nat.toDigits 10 n ++ rest := by
  unfold octet? at h
  generalize htake : takeDigits Numeral.digit? 10 0 0 cs = taken at h
  obtain ⟨m, k, left⟩ := taken
  dsimp only at h
  split at h
  · cases h
  · rename_i hrange
    split at h
    · cases h
    · rename_i hzero
      cases h
      obtain ⟨ds, rfl, hds, hk, hvalue⟩ := takeDigits_eq htake (by rw [beyondAll]; omega)
      have hne : ds ≠ [] := fun hnil => by
        rw [hnil, List.length_nil] at hk
        omega
      have hlead : ds.head? = some '0' → ds.length = 1 := fun hhead => by
        have hpos := List.length_pos_iff.mpr hne
        by_contra hlength
        exact hzero ⟨by rw [List.head?_append, hhead, Option.some_or], by omega⟩
      rw [← Numeral.Digits.eq_toDigits ⟨hne, hds, hvalue.symm⟩ hlead]
      exact ⟨by omega, rfl⟩

theorem past?_eq_some {c : Char} (h : past? c cs = some rest) : cs = c :: rest := by
  cases cs with
  | nil => cases h
  | cons d cs =>
    rw [past?] at h
    split at h
    · subst d
      cases h
      rfl
    · cases h

namespace Ipv4
variable {a b : Ipv4}

theorem eq_of_value (h : a.value = b.value) : a = b := by
  obtain ⟨_, _⟩ := a
  obtain ⟨_, _⟩ := b
  cases h
  rfl

theorem text_toList (a : Ipv4) : a.text.toList =
    Nat.toDigits 10 (a.value / 16777216) ++ '.' :: (Nat.toDigits 10 (a.value / 65536 % 256) ++
      '.' :: (Nat.toDigits 10 (a.value / 256 % 256) ++ '.' :: Nat.toDigits 10 (a.value % 256))) := by
  simp only [text, octets, String.toList_intercalate, List.map_cons, List.map_nil, Nat.toString_eq_repr,
    Nat.toList_repr]
  simp [List.intercalate, List.intersperse]

theorem ofOctets_octets (a : Ipv4) :
    ofOctets (a.value / 16777216) (a.value / 65536 % 256) (a.value / 256 % 256) (a.value % 256) = a := by
  obtain ⟨v, hv⟩ := a
  simp only [ofOctets, mk.injEq]
  omega

theorem read?_text (a : Ipv4) : read? a.text = some a := by
  have hdot (l : List Char) : ∀ c ∈ ('.' :: l).head?, c.isDigit = false := by
    intro c hc
    obtain rfl : '.' = c := by simpa using hc
    rfl
  have hvalue := a.value_lt
  have hlast : octet? (Nat.toDigits 10 (a.value % 256)) = some (a.value % 256, []) := by
    rw [← List.append_nil (Nat.toDigits 10 (a.value % 256))]
    exact octet?_toDigits (by omega) nofun
  have hfront : ipv4Front? a.text.toList = some (a, []) := by
    simp only [ipv4Front?, text_toList, octet?_toDigits (n := a.value / 16777216) (by omega) (hdot _),
      octet?_toDigits (n := a.value / 65536 % 256) (by omega) (hdot _),
      octet?_toDigits (n := a.value / 256 % 256) (by omega) (hdot _), hlast, past?, Option.bind_eq_bind,
      Option.bind_some, if_pos, ofOctets_octets, pure]
  rw [read?, hfront]
  rfl

theorem text_ofOctets {k l m n : Nat} (hk : k < 256) (hl : l < 256) (hm : m < 256) (hn : n < 256) :
    (ofOctets k l m n).text.toList = Nat.toDigits 10 k ++ '.' :: (Nat.toDigits 10 l ++
      '.' :: (Nat.toDigits 10 m ++ '.' :: Nat.toDigits 10 n)) := by
  obtain ⟨v, hv⟩ : ∃ v, v = ((k * 256 + l) * 256 + m) * 256 + n := ⟨_, rfl⟩
  have hvalue : (ofOctets k l m n).value = v := by
    simp only [ofOctets, hv, Nat.mod_eq_of_lt hk, Nat.mod_eq_of_lt hl, Nat.mod_eq_of_lt hm, Nat.mod_eq_of_lt hn]
  have hfirst : v / 16777216 = k := by omega
  have hsecond : v / 65536 % 256 = l := by omega
  have hthird : v / 256 % 256 = m := by omega
  have hlast : v % 256 = n := by omega
  rw [text_toList, hvalue, hfirst, hsecond, hthird, hlast]

/-- An address is only read where its text stands. -/
theorem front_eq_some (h : ipv4Front? cs = some (a, rest)) : cs = a.text.toList ++ rest := by
  simp only [ipv4Front?, Option.bind_eq_bind, Option.bind_eq_some_iff] at h
  obtain ⟨⟨k, r₁⟩, hfirst, r₂, hdot₁, ⟨l, r₃⟩, hsecond, r₄, hdot₂, ⟨m, r₅⟩, hthird, r₆, hdot₃, ⟨n, r₇⟩, hlast, he⟩ := h
  cases he
  obtain ⟨hk, rfl⟩ := octet?_eq_some hfirst
  obtain rfl := past?_eq_some hdot₁
  obtain ⟨hl, rfl⟩ := octet?_eq_some hsecond
  obtain rfl := past?_eq_some hdot₂
  obtain ⟨hm, rfl⟩ := octet?_eq_some hthird
  obtain rfl := past?_eq_some hdot₃
  obtain ⟨hn, rfl⟩ := octet?_eq_some hlast
  rw [text_ofOctets hk hl hm hn]
  simp only [List.append_assoc, List.cons_append]

/-- An address has one text only. -/
theorem read?_eq_some {s : String} : read? s = some a ↔ s = a.text := by
  constructor
  · intro h
    rw [read?] at h
    generalize hfront : ipv4Front? s.toList = front at h
    cases front with
    | none => cases h
    | some front =>
      obtain ⟨a', _ | ⟨c, rest⟩⟩ := front <;> cases h
      have hlist := front_eq_some hfront
      rw [List.append_nil] at hlist
      exact String.toList_injective hlist
  · rintro rfl
    exact read?_text a

theorem text_inj : a.text = b.text ↔ a = b := by
  constructor
  · intro h
    have hread := read?_text a
    rw [h, read?_text] at hread
    exact (Option.some.inj hread).symm
  · rintro rfl
    rfl

/-- A text consists of digits and dots. -/
theorem mem_text {c : Char} (h : c ∈ a.text.toList) : c.isDigit = true ∨ c = '.' := by
  have hdigit {n : Nat} (hc : c ∈ Nat.toDigits 10 n) : c.isDigit = true :=
    Nat.isDigit_of_mem_toDigits (by decide) (by decide) hc
  rw [text_toList] at h
  simp only [List.mem_append, List.mem_cons] at h
  tauto

theorem isBlank_of_mem_text {c : Char} (h : c ∈ a.text.toList) : isBlank c = false := by
  rcases mem_text h with hdigit | rfl
  · exact isBlank_of_isDigit hdigit
  · rfl

theorem trim_text (a : Ipv4) : trim a.text = a.text := by
  rw [trim, trimBlanks_eq fun _ => isBlank_of_mem_text, String.ofList_toList]

end Ipv4

end Pasteboard.Net
