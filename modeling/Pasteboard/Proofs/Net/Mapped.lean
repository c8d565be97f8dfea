import Pasteboard.Proofs.Net.Cidr
/-!
An IPv4 address in the form of IPv6.

The IPv6 address that maps an IPv4 address is not it, but counts as it where addresses are compared as such. As a text
it is neither the dotted text nor read as one, so no block matches it.
-/

namespace Pasteboard.Net

open Text

namespace Ipv4
variable {a : Ipv4}

/-- The IPv6 address that maps an IPv4 address. -/
def mapped (a : Ipv4) : Ipv6 := ⟨[0, 0, 0, 0, 0, 0xFFFF, a.value / 65536, a.value % 65536]⟩

theorem mapped?_mapped (a : Ipv4) : a.mapped.mapped? = some a := by
  obtain ⟨v, hv⟩ := a
  simp only [mapped, Ipv6.mapped?, ofOctets, Option.some.injEq, mk.injEq]
  omega

/-- Compared as addresses, the two are one. -/
theorem canonical_mapped (a : Ipv4) : (Address.v6 a.mapped).canonical = (Address.v4 a).canonical := by
  simp only [Address.canonical, mapped?_mapped]

theorem mapped_text (a : Ipv4) : a.mapped.text = "::ffff:" ++ a.text := by
  rw [Ipv6.text, mapped?_mapped]

theorem mapped_toList (a : Ipv4) : a.mapped.text.toList = "::ffff:".toList ++ a.text.toList := by
  rw [mapped_text, String.toList_append]

theorem mem_mapped {c : Char} (h : c ∈ a.mapped.text.toList) : c = ':' ∨ c = 'f' ∨ c ∈ a.text.toList := by
  rw [mapped_toList, List.mem_append] at h
  rcases h with h | h
  · have hletter : c = ':' ∨ c = 'f' ∨ c = ':' := by simpa using h
    rcases hletter with hc | hc | hc
    · exact .inl hc
    · exact .inr (.inl hc)
    · exact .inl hc
  · exact .inr (.inr h)

theorem trim_mapped (a : Ipv4) : trim a.mapped.text = a.mapped.text := by
  rw [trim, trimBlanks_eq, String.ofList_toList]
  intro c hc
  rcases mem_mapped hc with rfl | rfl | hc
  · rfl
  · rfl
  · exact isBlank_of_mem_text hc

theorem read?_mapped (a : Ipv4) : read? a.mapped.text = none := by
  rw [read?, mapped_toList]
  rfl

end Ipv4

namespace Cidr

/-- No block matches an address in mapped form, be it of the block or not. -/
theorem matches_mapped (c : Cidr) (a : Ipv4) : cidrMatches c.text a.mapped.text = false := by
  rw [cidrMatches, splitOnce_text]
  dsimp only [dotted?]
  rw [a.trim_mapped, a.read?_mapped]
  cases sharedBits? (toString c.bits) with
  | none => rfl
  | some bits => cases Ipv4.read? (trim c.base.text) <;> rfl

end Cidr

variable {cidrs : List String}

theorem matchesAny_mapped (h : ∀ cidr ∈ cidrs, ∃ c : Cidr, c.text = cidr) (a : Ipv4) :
    matchesAny cidrs a.mapped.text = false := by
  rw [matchesAny, List.any_eq_false]
  intro cidr hcidr
  obtain ⟨c, rfl⟩ := h cidr hcidr
  rw [c.matches_mapped]
  exact Bool.false_ne_true

theorem isLoopback_mapped (a : Ipv4) : isLoopback a.mapped.text = false := by
  have htext : "127.0.0.0/8" = (Cidr.mk (.ofOctets 127 0 0 0) 8 (by decide)).text := by decide +kernel
  have hne : (a.mapped.text == "::1") = false := by
    rw [beq_eq_false_iff_ne]
    intro h
    have hlist := congrArg String.toList h
    rw [a.mapped_toList] at hlist
    simp at hlist
  rw [isLoopback, hne, htext, Cidr.matches_mapped]
  rfl

end Pasteboard.Net
