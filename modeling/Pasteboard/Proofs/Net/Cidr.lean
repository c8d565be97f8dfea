import Pasteboard.Net.Cidr
import Pasteboard.Proofs.Net.Address
/-!
What the text of a block covers, as typed and in normal form.

A text names an address and the length of the part of it that other addresses must share. The normal text of a block
covers what the block covers, and two blocks have the same normal text if and only if they cover the same addresses.
-/

namespace Pasteboard.Net

open Text

/-! ### What a text means -/

/-- A text names an address and a length of its shared part: with a slash between them, or the address alone, of which
all 32 bits are shared. Blanks around the text and its parts do not count. -/
@[irreducible] def Names (text : String) (network : Ipv4) (bits : Nat) : Prop :=
  match splitOnce '/' (trim text) with
  | some (address, length) =>
    Ipv4.read? (trim address) = some network ∧ Numeral.read? Numeral.nat32 (trim length) = some (bits : Int) ∧ bits ≤ 32
  | none => Ipv4.read? (trim text) = some network ∧ bits = 32

/-- A text covers an address that agrees with the one it names in all bits of the shared part. -/
def TextCovers (text : String) (a : Ipv4) : Prop :=
  ∃ network bits, Names text network bits ∧ ∀ i, 32 - bits ≤ i → a.value.testBit i = network.value.testBit i

variable {text other : String} {c d : Cidr} {a network : Ipv4} {bits : Nat}

theorem Names.le (h : Names text network bits) : bits ≤ 32 := by
  unfold Names at h
  split at h <;> omega

theorem sharedBits?_eq_some {s : String} {n : { n : Nat // n ≤ 32 }} :
    sharedBits? s = some n ↔ Numeral.read? Numeral.nat32 (trim s) = some (n.val : Int) := by
  unfold sharedBits?
  cases hread : Numeral.read? Numeral.nat32 (trim s) with
  | none => simp
  | some k =>
    have hk : 0 ≤ k := Numeral.nonneg_of_read? rfl hread
    have hn := n.property
    dsimp only
    by_cases hle : k.toNat ≤ 32
    · rw [dif_pos hle]
      simp only [Option.some.injEq, Subtype.ext_iff]
      omega
    · rw [dif_neg hle]
      simp only [Option.some.injEq, reduceCtorEq, false_iff]
      omega

/-- A text is read as the block of what it names. -/
theorem Cidr.read_eq_ok : Cidr.read text = .ok c ↔ Names text c.network c.bits := by
  obtain ⟨network, bits, hbits⟩ := c
  unfold Cidr.read Names
  dsimp only
  rcases splitOnce '/' (trim text) with _ | ⟨address, length⟩
  · dsimp only [dotted?]
    rw [trim_trim]
    cases Ipv4.read? (trim text) with
    | none => simp
    | some a => simp [eq_comm]
  · dsimp only
    cases hlength : sharedBits? length with
    | none =>
      have hnot : Numeral.read? Numeral.nat32 (trim length) ≠ some (bits : Int) := fun hread => by
        rw [(sharedBits?_eq_some (n := ⟨bits, hbits⟩)).mpr hread] at hlength
        cases hlength
      simp [hnot]
    | some k =>
      have hread := sharedBits?_eq_some.mp hlength
      rw [hread]
      unfold dotted?
      cases Ipv4.read? (trim address) with
      | none => simp
      | some a => simp [hbits]

/-! ### Blocks as intervals -/

namespace Cidr

theorem blockSize_pos (bits : Nat) : 0 < blockSize bits := Nat.two_pow_pos _

theorem covers_iff : c.covers a = true ↔ a.value / blockSize c.bits = c.network.value / blockSize c.bits := beq_iff_eq

/-- An address is covered if it agrees with the network in all bits of the shared part. -/
theorem covers_iff_testBit :
    c.covers a = true ↔ ∀ i, 32 - c.bits ≤ i → a.value.testBit i = c.network.value.testBit i := by
  rw [covers_iff]
  change a.value / 2 ^ (32 - c.bits) = c.network.value / 2 ^ (32 - c.bits) ↔ _
  constructor
  · intro h i hi
    have hbit := congrArg (Nat.testBit · (i - (32 - c.bits))) h
    simpa only [Nat.testBit_div_two_pow, Nat.sub_add_cancel hi] using hbit
  · intro h
    refine Nat.eq_of_testBit_eq fun i => ?_
    rw [Nat.testBit_div_two_pow, Nat.testBit_div_two_pow]
    exact h _ (Nat.le_add_left _ _)

theorem base_covers (c : Cidr) : c.covers c.base = true :=
  covers_iff.mpr (Nat.mul_div_cancel _ (blockSize_pos c.bits))

/-- Every address of a block is at least its first address. -/
theorem base_le (h : c.covers a = true) : c.base.value ≤ a.value := by
  change c.network.value / blockSize c.bits * blockSize c.bits ≤ a.value
  rw [← covers_iff.mp h]
  exact Nat.div_mul_le_self _ _

/-- The last address of a block. -/
def last (c : Cidr) : Ipv4 where
  value := c.base.value + (blockSize c.bits - 1)
  value_lt := by
    have hwhole : 2 ^ c.bits * blockSize c.bits = 4294967296 := by
      change 2 ^ c.bits * 2 ^ (32 - c.bits) = 2 ^ 32
      rw [← Nat.pow_add, Nat.add_sub_cancel' c.bits_le]
    have hquotient : c.network.value / blockSize c.bits < 2 ^ c.bits :=
      Nat.div_lt_of_lt_mul (by rw [Nat.mul_comm, hwhole]; exact c.network.value_lt)
    have hblock : (c.network.value / blockSize c.bits + 1) * blockSize c.bits ≤ 2 ^ c.bits * blockSize c.bits :=
      Nat.mul_le_mul_right _ hquotient
    have hpos := blockSize_pos c.bits
    change c.network.value / blockSize c.bits * blockSize c.bits + _ < _
    rw [hwhole, Nat.add_mul, Nat.one_mul] at hblock
    omega

theorem last_covers (c : Cidr) : c.covers c.last = true := by
  refine covers_iff.mpr ?_
  change (c.network.value / blockSize c.bits * blockSize c.bits + (blockSize c.bits - 1)) / blockSize c.bits = _
  have hpos := blockSize_pos c.bits
  rw [Nat.mul_comm, Nat.mul_add_div hpos, Nat.div_eq_of_lt (Nat.sub_lt hpos Nat.one_pos), Nat.add_zero]

/-- Every address of a block is at most its last address. -/
theorem le_last (h : c.covers a = true) : a.value ≤ c.last.value := by
  change a.value ≤ c.network.value / blockSize c.bits * blockSize c.bits + (blockSize c.bits - 1)
  rw [← covers_iff.mp h]
  have hpos := blockSize_pos c.bits
  have hlt := Nat.mod_lt a.value hpos
  have hdiv := Nat.div_add_mod' a.value (blockSize c.bits)
  omega

/-- Blocks that cover the same addresses have the same first address and the same length. -/
theorem eq_of_covers (h : ∀ a, c.covers a = true ↔ d.covers a = true) : c.base = d.base ∧ c.bits = d.bits := by
  have hbase : c.base.value = d.base.value :=
    Nat.le_antisymm (base_le ((h _).mpr d.base_covers)) (base_le ((h _).mp c.base_covers))
  have hlast : c.last.value = d.last.value :=
    Nat.le_antisymm (le_last ((h _).mp c.last_covers)) (le_last ((h _).mpr d.last_covers))
  have hsize : 2 ^ (32 - c.bits) = 2 ^ (32 - d.bits) := by
    change blockSize c.bits = blockSize d.bits
    have hc := blockSize_pos c.bits
    have hd := blockSize_pos d.bits
    change c.base.value + (blockSize c.bits - 1) = d.base.value + (blockSize d.bits - 1) at hlast
    omega
  have hlength : 32 - c.bits = 32 - d.bits := Nat.pow_right_injective (Nat.le_refl 2) hsize
  have hc := c.bits_le
  have hd := d.bits_le
  exact ⟨Ipv4.eq_of_value hbase, by omega⟩

theorem covers_congr (hbase : c.base = d.base) (hbits : c.bits = d.bits) : c.covers a = d.covers a := by
  obtain ⟨⟨n, hn⟩, k, hk⟩ := c
  obtain ⟨⟨m, hm⟩, l, hl⟩ := d
  subst hbits
  have hquotient : n / blockSize k = m / blockSize k :=
    Nat.eq_of_mul_eq_mul_right (blockSize_pos k) (congrArg Ipv4.value hbase)
  rw [covers, covers, hquotient]

/-! ### Normal texts -/

theorem splitOnce_text (c : Cidr) : splitOnce '/' c.text = some (c.base.text, toString c.bits) := by
  have hslash : '/' ∉ c.base.text.toList := fun hmem => by
    rcases Ipv4.mem_text hmem with h | h
    · exact absurd h (by decide)
    · exact absurd h (by decide)
  have hlist : c.text.toList = c.base.text.toList ++ '/' :: (toString c.bits).toList := by
    simp [text, String.toList_append]
  rw [splitOnce, hlist, splitAt?_eq hslash, Option.map_some]
  dsimp only
  rw [String.ofList_toList, String.ofList_toList]

theorem read?_bits (c : Cidr) : Numeral.read? Numeral.nat32 (trim (toString c.bits)) = some (c.bits : Int) := by
  have hnonneg : (0 : Int) ≤ c.bits := Int.natCast_nonneg _
  have htext : toString c.bits = toString (c.bits : Int) := rfl
  have hblank : ∀ ch ∈ (toString (c.bits : Int)).toList, isBlank ch = false := fun ch hch =>
    isBlank_of_isDigit (Numeral.isDigit_of_mem_toString hnonneg hch)
  have hhigh : (c.bits : Int) ≤ Numeral.nat32.high :=
    Int.le_trans (Int.ofNat_le.mpr c.bits_le) (by decide)
  rw [htext, trim, trimBlanks_eq hblank, String.ofList_toList, Numeral.read?_toString hnonneg hhigh]

/-- The normal text of a block matches an address in dotted form if and only if the block covers it. -/
theorem matches_text (c : Cidr) (a : Ipv4) : cidrMatches c.text a.text = c.covers a := by
  have hlength : sharedBits? (toString c.bits) = some ⟨c.bits, c.bits_le⟩ := sharedBits?_eq_some.mpr c.read?_bits
  rw [cidrMatches, splitOnce_text]
  dsimp only [dotted?]
  rw [hlength, Ipv4.trim_text, Ipv4.trim_text, Ipv4.read?_text, Ipv4.read?_text]
  refine covers_congr (Ipv4.eq_of_value ?_) rfl
  exact congrArg (· * _) (Nat.mul_div_cancel _ (blockSize_pos c.bits))

/-- Blocks have the same normal text if and only if they cover the same addresses. -/
theorem text_eq_iff : c.text = d.text ↔ ∀ a, c.covers a = true ↔ d.covers a = true := by
  constructor
  · intro h a
    rw [← matches_text, h, matches_text]
  · intro h
    obtain ⟨hbase, hbits⟩ := eq_of_covers h
    rw [text, text, hbase, hbits]

end Cidr

theorem textCovers_iff : TextCovers text a ↔ ∃ c, Cidr.read text = .ok c ∧ c.covers a = true := by
  constructor
  · rintro ⟨network, bits, hnames, hbits⟩
    have hle : bits ≤ 32 := hnames.le
    exact ⟨⟨network, bits, hle⟩, Cidr.read_eq_ok.mpr hnames, Cidr.covers_iff_testBit.mpr hbits⟩
  · rintro ⟨c, hread, hcovers⟩
    exact ⟨c.network, c.bits, Cidr.read_eq_ok.mp hread, Cidr.covers_iff_testBit.mp hcovers⟩

theorem normalizeCidr_eq_ok {block : String} :
    normalizeCidr text = .ok block ↔ ∃ c, Cidr.read text = .ok c ∧ c.text = block := by
  unfold normalizeCidr
  cases Cidr.read text with
  | error e => simp [Except.map]
  | ok c => simp [Except.map]

/-- A text has a normal text if and only if it covers an address at all. -/
theorem normalizeCidr_isOk_iff : (∃ block, normalizeCidr text = .ok block) ↔ ∃ a, TextCovers text a := by
  simp only [textCovers_iff, normalizeCidr_eq_ok]
  constructor
  · rintro ⟨-, c, hread, -⟩
    exact ⟨c.base, c, hread, c.base_covers⟩
  · rintro ⟨-, c, hread, -⟩
    exact ⟨c.text, c, hread, rfl⟩

/-- The normal text of what was typed matches the addresses that were meant. -/
theorem matches_normal {block : String} (h : normalizeCidr text = .ok block) (a : Ipv4) :
    cidrMatches block a.text = true ↔ TextCovers text a := by
  obtain ⟨c, hread, rfl⟩ := normalizeCidr_eq_ok.mp h
  rw [c.matches_text, textCovers_iff, hread]
  simp

/-- Another text has the same normal text if and only if it covers the same addresses. -/
theorem normal_eq_iff {block : String} (h : normalizeCidr text = .ok block) :
    normalizeCidr other = .ok block ↔ ∀ a, TextCovers other a ↔ TextCovers text a := by
  obtain ⟨c, hread, rfl⟩ := normalizeCidr_eq_ok.mp h
  simp only [textCovers_iff, normalizeCidr_eq_ok, hread]
  constructor
  · rintro ⟨d, hother, htext⟩ a
    have hsame := Cidr.text_eq_iff.mp htext a
    simpa [hother] using hsame
  · intro hsame
    -- The text covers at least its first address, so the other one is read, too.
    obtain ⟨d, hother, -⟩ := (hsame c.base).mpr ⟨c, rfl, c.base_covers⟩
    refine ⟨d, hother, Cidr.text_eq_iff.mpr fun a => ?_⟩
    simpa [hother] using hsame a

end Pasteboard.Net
