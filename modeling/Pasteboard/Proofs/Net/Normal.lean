import Pasteboard.Proofs.Net.Cidr
/-!
The normal form of a block.

A text that writes a block has one normal text, which is its own, and two texts have the same one if and only if they
match the same addresses. A text without a slash is matched as it stands and the others by their bits, and it comes to
the same: an address has one dotted text only.
-/

namespace Pasteboard.Net

open Text

/-- A text writes a block: it is the dotted text of an address, or of an address and a number of shared bits with a
slash between them. Blanks around the text and its parts do not count. -/
inductive Writes : String → Prop
  | host {text : String} {a : Ipv4} (address : trim text = a.text) : Writes text
  | block {front back : String} {a : Ipv4} {bits : Nat} (address : trim front = a.text)
      (length : Numeral.Unsigned (trim back).toList bits) (le : bits ≤ 32) : Writes (front ++ "/" ++ back)

variable {text other front back : String} {c d : Cidr} {a : Ipv4} {bits : Nat}

/-! ### Texts that are read -/

theorem not_mem_text : '/' ∉ a.text.toList := fun h => by
  rcases Ipv4.mem_text h with h | h <;> exact absurd h (by decide)

theorem read?_length (le : bits ≤ 32) :
    Numeral.read? Numeral.nat32 text = some (bits : Int) ↔ Numeral.Unsigned text.toList bits := by
  have hhigh : (bits : Int) ≤ Numeral.nat32.high := Int.le_trans (Int.ofNat_le.mpr le) (by decide)
  rw [Numeral.read?_unsigned rfl (by decide), and_iff_left hhigh]

/-- An address alone is read as the block of that address. -/
theorem read_host (h : splitOnce '/' text = none) :
    Cidr.read text = .ok c ↔ trim text = c.network.text ∧ c.bits = 32 := by
  have htrim : splitOnce '/' (trim text) = none := by
    rwa [splitOnce_eq_none, mem_trim (by rfl), ← splitOnce_eq_none]
  rw [Cidr.read_eq_ok]
  unfold Names
  rw [htrim]
  exact and_congr_left' Ipv4.read?_eq_some

/-- Two sides of a slash are read as an address and a number of bits. -/
theorem read_block (h : splitOnce '/' text = some (front, back)) : Cidr.read text = .ok c ↔
    trim front = c.network.text ∧ Numeral.Unsigned (trim back).toList c.bits := by
  obtain ⟨front', back', htrim, hfront, hback⟩ := splitOnce_trim (by rfl) h
  rw [Cidr.read_eq_ok]
  unfold Names
  rw [htrim]
  dsimp only
  rw [hfront, hback, Ipv4.read?_eq_some, read?_length c.bits_le, and_iff_left c.bits_le]

theorem not_mem_of_trim (h : trim text = a.text) : '/' ∉ text.toList := by
  rw [← mem_trim (by rfl), h]
  exact not_mem_text

/-- The texts that are read are those that write a block. -/
theorem writes_iff : Writes text ↔ ∃ c, Cidr.read text = .ok c := by
  constructor
  · rintro (@⟨_, a, address⟩ | @⟨front, back, a, bits, address, length, le⟩)
    · have hsplit : splitOnce '/' text = none := splitOnce_eq_none.mpr (not_mem_of_trim address)
      exact ⟨⟨a, 32, Nat.le_refl 32⟩, (read_host hsplit).mpr ⟨address, rfl⟩⟩
    · have hsplit : splitOnce '/' (front ++ "/" ++ back) = some (front, back) :=
        splitOnce_eq_some.mpr ⟨by simp, not_mem_of_trim address⟩
      exact ⟨⟨a, bits, le⟩, (read_block hsplit).mpr ⟨address, length⟩⟩
  · rintro ⟨c, hread⟩
    cases hsplit : splitOnce '/' text with
    | none => exact .host ((read_host hsplit).mp hread).1
    | some sides =>
      obtain ⟨front, back⟩ := sides
      obtain ⟨address, length⟩ := (read_block hsplit).mp hread
      have htext : text = front ++ "/" ++ back := by
        rw [← String.toList_inj]
        simp [(splitOnce_eq_some.mp hsplit).1]
      exact htext ▸ .block address length c.bits_le

/-! ### What texts match -/

/-- A block of which all bits are shared is one address. -/
theorem covers_host (h : c.bits = 32) : c.covers a = (c.network.text == a.text) := by
  rw [Bool.eq_iff_iff, Cidr.covers_iff, beq_iff_eq, Ipv4.text_inj, h]
  change a.value / 1 = c.network.value / 1 ↔ _
  rw [Nat.div_one, Nat.div_one]
  constructor
  · intro hvalue
    exact (Ipv4.eq_of_value hvalue).symm
  · rintro rfl
    rfl

/-- A text matches an address in dotted form if and only if the block that it is read as covers the address. -/
theorem matches_of_read (h : Cidr.read text = .ok c) (a : Ipv4) : cidrMatches text a.text = c.covers a := by
  cases hsplit : splitOnce '/' text with
  | none =>
    obtain ⟨address, hbits⟩ := (read_host hsplit).mp h
    rw [cidrMatches, hsplit, covers_host hbits, ← address, Ipv4.trim_text]
  | some sides =>
    obtain ⟨front, back⟩ := sides
    obtain ⟨address, length⟩ := (read_block hsplit).mp h
    have hbits : sharedBits? back = some ⟨c.bits, c.bits_le⟩ :=
      sharedBits?_eq_some.mpr ((read?_length c.bits_le).mpr length)
    rw [cidrMatches, hsplit]
    dsimp only [dotted?]
    rw [hbits, address, Ipv4.read?_text, Ipv4.trim_text, Ipv4.read?_text]

/-! ### Normal texts -/

/-- The normal text of a block is read as the same block with its first address as network. -/
theorem Cidr.read_text (c : Cidr) : Cidr.read c.text = .ok ⟨c.base, c.bits, c.bits_le⟩ :=
  (read_block c.splitOnce_text).mpr ⟨c.base.trim_text, (read?_length c.bits_le).mp c.read?_bits⟩

/-- A normal text is its own normal text. -/
theorem normalizeCidr_text (c : Cidr) : normalizeCidr c.text = .ok c.text := by
  refine normalizeCidr_eq_ok.mpr ⟨_, c.read_text, Cidr.text_eq_iff.mpr fun a => ?_⟩
  rw [← matches_of_read c.read_text, c.matches_text]

/-- Every text that has a normal text matches the same addresses as its normal text, which is its own normal text, and
any two such texts have the same normal text if and only if they match the same addresses. A text has a normal text if
and only if it writes a block: an address in dotted form between blanks, and perhaps a slash and a number from 0 to 32
between blanks, which may have a plus and zeros in front. -/
theorem normal_texts_are_canonical :
    (∀ text block, normalizeCidr text = .ok block →
      (∀ a : Ipv4, cidrMatches block a.text = cidrMatches text a.text) ∧ normalizeCidr block = .ok block ∧
      ∀ other normal, normalizeCidr other = .ok normal →
        (block = normal ↔ ∀ a : Ipv4, cidrMatches text a.text = cidrMatches other a.text)) ∧
    ∀ text, (∃ block, normalizeCidr text = .ok block) ↔ Writes text := by
  refine ⟨fun text block hblock => ?_, fun text => ?_⟩
  · obtain ⟨c, hread, rfl⟩ := normalizeCidr_eq_ok.mp hblock
    refine ⟨fun a => ?_, normalizeCidr_text c, fun other normal hnormal => ?_⟩
    · rw [c.matches_text, matches_of_read hread]
    · obtain ⟨d, hother, rfl⟩ := normalizeCidr_eq_ok.mp hnormal
      rw [Cidr.text_eq_iff]
      refine forall_congr' fun a => ?_
      rw [matches_of_read hread, matches_of_read hother]
      exact Bool.eq_iff_iff.symm
  · simp only [writes_iff, normalizeCidr_eq_ok]
    constructor
    · rintro ⟨-, c, hread, -⟩
      exact ⟨c, hread⟩
    · rintro ⟨c, hread⟩
      exact ⟨c.text, c, hread, rfl⟩

/-- Two texts of one block, with a blank and zeros, match the same addresses. -/
theorem normal_texts_are_canonical_of_ten :
    normalizeCidr "10.0.0.5 /+08" = .ok "10.0.0.0/8" ∧ normalizeCidr "10.9.9.9/8" = .ok "10.0.0.0/8" ∧
      (∀ a : Ipv4, cidrMatches "10.0.0.5 /+08" a.text = cidrMatches "10.9.9.9/8" a.text) ∧
      normalizeCidr "10.0.0.0/8" = .ok "10.0.0.0/8" := by
  have hfirst : normalizeCidr "10.0.0.5 /+08" = .ok "10.0.0.0/8" := by decide +kernel
  have hsecond : normalizeCidr "10.9.9.9/8" = .ok "10.0.0.0/8" := by decide +kernel
  obtain ⟨-, hnormal, hcanonical⟩ := normal_texts_are_canonical.1 _ _ hfirst
  exact ⟨hfirst, hsecond, (hcanonical _ _ hsecond).mp rfl, hnormal⟩

/-- Blanks count as little in front of the number of shared bits as they do in front of the address. -/
theorem length_after_blank_is_read : normalizeCidr "10.0.0.0/ 8" = .ok "10.0.0.0/8" ∧
    splitOnce '/' "10.0.0.0/ 8" = some ("10.0.0.0", " 8") ∧ ∀ n, ¬Numeral.Unsigned " 8".toList n := by
  refine ⟨by decide +kernel, by decide +kernel, fun n h => ?_⟩
  have hblank : ' ' ∉ " 8".toList := h.not_mem rfl (by decide)
  exact hblank List.mem_cons_self

end Pasteboard.Net
