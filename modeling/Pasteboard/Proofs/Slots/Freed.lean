import Pasteboard.Proofs.Slots.Newest
/-!
Ids that are free, and the id that a new payload takes.

An id is free while its row is inactive. A new payload takes the least free id, else the next one
after all rows; with all places taken it takes the id of the oldest active row.
-/

namespace Pasteboard

namespace Store
variable {s : Store} {f : Row → Row} {id i now : Int} {r before : Row} {c : Capacity} {x : Payload}
    {actor : Actor} {n : Nat}

/-- The row with an id is inactive. -/
def Free (s : Store) (id : Int) : Prop := ∃ r ∈ s.slots, r.id = id ∧ r.isActive = false

/-- The id that a new payload takes, and how many rows there are then. -/
inductive Claimed (c : Capacity) (s : Store) : Int → Nat → Prop
  | least {id : Int} (room : s.recent.length < c.size) (free : s.Free id) (least : ∀ i, s.Free i → id ≤ i) :
    Claimed c s id s.slots.length
  | unused (room : s.recent.length < c.size) (full : ∀ i, ¬s.Free i) :
    Claimed c s (s.slots.length + 1) (s.slots.length + 1)
  | oldest {r : Row} (full : c.size ≤ s.recent.length) (last : s.recent.getLast? = some r) :
    Claimed c s r.id s.slots.length

/-! ### The id that is taken -/

theorem Sound.ascending (h : s.Sound) : s.slots.Pairwise fun r t => r.id < t.id := by
  have hids : (s.slots.map (·.id)).Pairwise (· < ·) := by
    rw [h.ids, idsUpTo, List.pairwise_map]
    exact List.pairwise_lt_range.imp fun hlt => by omega
  exact List.pairwise_map.mp hids

/-- The first inactive row has the least free id. -/
theorem Sound.least_of_find? (h : s.Sound) (hr : (s.slots.find? fun r => !r.isActive) = some r) :
    s.Free r.id ∧ ∀ i, s.Free i → r.id ≤ i := by
  obtain ⟨hact, before, after, hsplit, hbefore⟩ := List.find?_eq_some_iff_append.mp hr
  refine ⟨⟨r, List.mem_of_find?_eq_some hr, rfl, by simpa using hact⟩, ?_⟩
  rintro i ⟨t, ht, rfl, htact⟩
  have hlt := h.ascending
  rw [hsplit] at ht hlt
  obtain ⟨-, hafter, -⟩ := List.pairwise_append.mp hlt
  rcases List.mem_append.mp ht with ht | ht
  · have := hbefore t ht
    simp [htact] at this
  · rcases List.mem_cons.mp ht with rfl | ht
    · exact le_refl _
    · exact ((List.pairwise_cons.mp hafter).1 t ht).le

theorem Sound.claimed (h : s.Sound) : Claimed c s (s.claim c).1 (s.claim c).2.slots.length := by
  by_cases hroom : s.activeRows.length < c.size
  · have htarget : s.target c = s.slots.find? fun r => !r.isActive := if_pos hroom
    rw [← recent_length] at hroom
    cases hfind : s.slots.find? fun r => !r.isActive with
    | some r =>
      rw [claim_of_some (htarget.trans hfind)]
      obtain ⟨hfree, hleast⟩ := h.least_of_find? hfind
      exact .least hroom hfree hleast
    | none =>
      rw [claim_of_none (htarget.trans hfind), h.nextId_eq, addRow_slots, List.length_append]
      refine .unused hroom ?_
      rintro i ⟨r, hr, -, hact⟩
      have := List.find?_eq_none.mp hfind r hr
      simp [hact] at this
  · have htarget : s.target c = s.recent.getLast? := (if_neg hroom).trans h.oldest_eq
    rw [← recent_length, not_lt] at hroom
    cases hlast : s.recent.getLast? with
    | some r =>
      rw [claim_of_some (htarget.trans hlast)]
      exact .oldest hroom hlast
    | none =>
      rw [List.getLast?_eq_none_iff] at hlast
      rw [hlast] at hroom
      exact absurd c.size_pos (not_lt_of_ge hroom)

/-! ### Active rows beside the id -/

theorem Sound.ne_of_free (h : s.Sound) (hfree : s.Free id) : ∀ r ∈ s.recent, r.id ≠ id := by
  obtain ⟨t, ht, rfl, hinact⟩ := hfree
  exact fun r hr he => (h.inactive_iff ht).mp hinact ⟨r, hr, he⟩

/-- Filling an active row frees no id and takes no free one. -/
theorem Sound.free_iff_ne_and (h : s.Sound) (hr : r ∈ s.recent) : s.Free i ↔ i ≠ r.id ∧ s.Free i :=
  ⟨fun hi => ⟨fun he => h.ne_of_free hi r hr he.symm, hi⟩, And.right⟩

theorem Sound.filter_last (h : s.Sound) (hlast : s.recent.getLast? = some r) :
    (s.recent.filter fun t => t.id != r.id) = s.recent.dropLast := by
  have hsplit : s.recent.dropLast ++ [r] = s.recent := List.dropLast_append_getLast? r hlast
  have hn := h.recent_nodup
  rw [← hsplit, List.map_append, List.nodup_append] at hn
  have hkept : ∀ t ∈ s.recent.dropLast, t.id ≠ r.id := fun t ht =>
    hn.2.2 t.id (List.mem_map_of_mem ht) r.id (List.mem_singleton_self _)
  calc (s.recent.filter fun t => t.id != r.id)
      = (s.recent.dropLast ++ [r]).filter fun t => t.id != r.id := by rw [hsplit]
    _ = s.recent.dropLast := by
        rw [List.filter_append, List.filter_eq_self.mpr fun t ht => bne_iff_ne.mpr (hkept t ht)]
        simp

/-! ### Ids that are free after a change -/

theorem free_setRow (hact : ∀ r, (f r).isActive = true) : (s.setRow id f).Free i ↔ i ≠ id ∧ s.Free i := by
  constructor
  · rintro ⟨r, hr, rfl, hr'⟩
    rcases mem_setRow hr with ⟨hr, hne⟩ | ⟨t, -, -, rfl⟩
    · exact ⟨hne, r, hr, rfl, hr'⟩
    · rw [hact] at hr'
      cases hr'
  · rintro ⟨hne, r, hr, rfl, hr'⟩
    exact ⟨r, mem_changeRows.mpr ⟨r, hr, if_neg (by simpa using hne)⟩, rfl, hr'⟩

theorem free_filled : (s.filled c now x).Free i ↔ i ≠ (s.claim c).1 ∧ s.Free i := by
  rw [filled, free_setRow fill_isActive]
  refine and_congr_right fun hne => ?_
  cases ht : s.target c with
  | some r => rw [claim_of_some ht]
  | none =>
    rw [claim_of_none ht] at hne ⊢
    constructor
    · rintro ⟨r, hr, rfl, hact⟩
      rcases List.mem_append.mp hr with hr | hr
      · exact ⟨r, hr, rfl, hact⟩
      · exact absurd (congrArg Row.id (List.mem_singleton.mp hr)) hne
    · rintro ⟨r, hr, hid⟩
      exact ⟨r, List.mem_append_left _ hr, hid⟩

theorem free_rewritten : (s.rewritten now before x actor).Free i ↔ i ≠ before.id ∧ s.Free i :=
  free_setRow refill_isActive

theorem Sound.free_deleted (h : s.Sound) (hr : r ∈ s.recent) : (s.deleted r.id).Free i ↔ i = r.id ∨ s.Free i := by
  obtain ⟨hmem, hact⟩ := mem_recent.mp hr
  constructor
  · rintro ⟨q, hq, rfl, hqact⟩
    obtain ⟨t, ht, rfl⟩ := mem_changeRows.mp hq
    by_cases hid : t.id = r.id
    · left
      rw [h.eq_of_id_eq ht hmem hid, if_pos (by simp [hact]), Row.retired_id]
    · right
      rw [if_neg (by simp [hid])] at hqact ⊢
      exact ⟨t, ht, rfl, hqact⟩
  · rintro (rfl | ⟨t, ht, rfl, htact⟩)
    · exact ⟨r.retired, mem_changeRows.mpr ⟨r, hmem, if_pos (by simp [hact])⟩, rfl, rfl⟩
    · exact ⟨t, mem_changeRows.mpr ⟨t, ht, if_neg (by simp [htact])⟩, rfl, htact⟩

/-! ### Nothing beyond the capacity -/

theorem trimmed_slots (h : s.recent.length ≤ n) : (s.trimmed n).slots = s.slots := by
  rw [trimmed, changeRows_slots, surplus_eq, List.drop_eq_nil_of_le h]
  exact List.map_id' _

/-- Where nothing is surplus, a replacement of an active row changes this row only. -/
theorem Sound.replaced_slots (h : s.Sound) (hb : before ∈ s.recent) (hn : s.recent.length ≤ n) :
    ((s.rewritten now before x actor).trimmed n).slots = (s.setRow before.id (refill now x)).slots :=
  trimmed_slots (by rw [h.recent_rewritten_active hb, List.length_map]; exact hn)

theorem Sound.replaced_mem (h : s.Sound) (hb : before ∈ s.recent) (hn : s.recent.length ≤ n) :
    refill now x before ∈ ((s.rewritten now before x actor).trimmed n).recent := by
  rw [mem_recent, h.replaced_slots hb hn]
  exact ⟨mem_changeRows.mpr ⟨before, (mem_recent.mp hb).1, if_pos (beq_self_eq_true before.id)⟩, refill_isActive before⟩

end Store

end Pasteboard
