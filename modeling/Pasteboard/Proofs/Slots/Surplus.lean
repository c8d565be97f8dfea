import Pasteboard.Proofs.Board.Reachable
import Pasteboard.Proofs.Slots.Freed
/-!
What is retired as surplus, deleted row by row.

The surplus over a limit is retired by one statement, which looks for all rows of it at once. The same rows go if the
oldest active one is deleted again and again, until no more than the limit are active: each deletion takes the last of
the active rows, and what is surplus afterwards are the others behind the limit.
-/

namespace Pasteboard

namespace Store
variable {s u : Store} {r q : Row} {n k : Nat}

/-- The active row that no other is older than. -/
def Oldest (s : Store) (r : Row) : Prop := r ∈ s.activeRows ∧ ∀ q ∈ s.activeRows, q.olderThan r = false

/-- Deletions of the oldest active row, as many as `k`, until at most `n` are active. -/
inductive Shed (n : Nat) : Nat → Store → Store → Prop
  | enough {s : Store} (h : s.countActive ≤ n) : Shed n 0 s s
  | oldest {k : Nat} {s t u : Store} {r : Row} (more : n < s.countActive) (oldest : s.Oldest r)
    (delete : s.delete r.id = .ok t) (rest : Shed n k t u) : Shed n (k + 1) s u

/-! ### The oldest row -/

theorem Sound.last_or_newer (h : s.Sound) (hlast : s.recent.getLast? = some r) (hq : q ∈ s.recent) :
    q = r ∨ r.place < q.place := by
  have hnewest := h.recent_newestFirst
  rw [← List.dropLast_append_getLast? r hlast] at hq hnewest
  rcases List.mem_append.mp hq with hbefore | hr
  · exact Or.inr ((List.pairwise_append.mp hnewest).2.2 q hbefore r (List.mem_singleton_self r))
  · exact Or.inl (List.mem_singleton.mp hr)

/-- The oldest active row is the last one from the newest on. -/
theorem Sound.oldest_iff (h : s.Sound) : s.Oldest r ↔ s.recent.getLast? = some r := by
  constructor
  · rintro ⟨hr, hnone⟩
    have hmem : r ∈ s.recent := (recent_perm s).mem_iff.mpr hr
    obtain ⟨q, hlast⟩ := Option.isSome_iff_exists.mp (List.getLast?_isSome.mpr (List.ne_nil_of_mem hmem))
    rcases h.last_or_newer hlast hmem with rfl | hlt
    · exact hlast
    · have holder : q.olderThan r = true := Row.olderThan_iff.mpr hlt
      rw [hnone q ((recent_perm s).mem_iff.mp (List.mem_of_getLast? hlast))] at holder
      cases holder
  · intro hlast
    refine ⟨(recent_perm s).mem_iff.mp (List.mem_of_getLast? hlast), fun q hq => ?_⟩
    rw [← Bool.not_eq_true, Row.olderThan_iff, not_lt]
    rcases h.last_or_newer hlast ((recent_perm s).mem_iff.mpr hq) with rfl | hlt
    · exact le_rfl
    · exact hlt.le

theorem Oldest.delete (hold : s.Oldest r) : s.delete r.id = .ok (s.deleted r.id) := by
  have hactive : s.slots.any (fun q => q.id == r.id && q.isActive) = true :=
    any_active_iff.mpr ⟨r, (recent_perm s).mem_iff.mpr hold.1, rfl⟩
  rw [delete_eq, if_pos hactive]

/-! ### One deletion -/

theorem Sound.countActive_deleted (h : s.Sound) (hold : s.Oldest r) :
    (s.deleted r.id).countActive = s.countActive - 1 := by
  rw [countActive_eq, countActive_eq, h.recent_deleted, h.filter_last (h.oldest_iff.mp hold), List.length_dropLast]

/-- The surplus is what it is without the oldest row, and this row. -/
theorem Sound.surplus_deleted (h : s.Sound) (hold : s.Oldest r) (hover : n < s.countActive) :
    s.surplus n = (s.deleted r.id).surplus n ++ [r.id] := by
  have hlast := h.oldest_iff.mp hold
  have hsplit : s.recent.dropLast ++ [r] = s.recent := List.dropLast_append_getLast? r hlast
  have hshort : n ≤ s.recent.dropLast.length := by
    rw [List.length_dropLast, ← countActive_eq]
    omega
  rw [surplus_eq, surplus_eq, h.recent_deleted, h.filter_last hlast]
  calc (s.recent.drop n).map (·.id)
      = ((s.recent.dropLast ++ [r]).drop n).map (·.id) := by rw [hsplit]
    _ = (s.recent.dropLast.drop n).map (·.id) ++ [r.id] := by
        rw [List.drop_append_of_le_length hshort, List.map_append, List.map_singleton]

/-- Deleting the oldest row first makes no difference to what is there once the surplus is retired. -/
theorem Sound.trimmed_deleted (h : s.Sound) (hold : s.Oldest r) (hover : n < s.countActive) :
    ((s.deleted r.id).trimmed n).slots = (s.trimmed n).slots := by
  obtain ⟨hmem, hact⟩ := mem_activeRows.mp hold.1
  rw [Store.trimmed, changeRows_slots, Store.deleted, changeRows_slots, List.map_map, ← Store.deleted, Store.trimmed,
    changeRows_slots, h.surplus_deleted hold hover]
  refine List.map_congr_left fun q hq => ?_
  by_cases hid : q.id = r.id
  · -- The row is retired now, and would be later.
    rw [h.eq_of_id_eq hq hmem hid]
    simp [hact, Row.retired]
  · simp [hid]

/-! ### All deletions -/

theorem Sound.shed_eq (h : s.Sound) (hshed : Shed n k s u) :
    k = s.countActive - n ∧ u.slots = (s.trimmed n).slots := by
  induction hshed with
  | enough hfew =>
    rw [countActive_eq] at hfew ⊢
    exact ⟨by omega, (trimmed_slots hfew).symm⟩
  | oldest hover hold hdelete _ ih =>
    rw [hold.delete] at hdelete
    cases hdelete
    obtain ⟨hcount, hslots⟩ := ih h.deleted
    rw [h.countActive_deleted hold] at hcount
    exact ⟨by omega, hslots.trans (h.trimmed_deleted hold hover)⟩

theorem Sound.exists_shed (h : s.Sound) (n : Nat) : ∃ u, Shed n (s.countActive - n) s u := by
  induction hsurplus : s.countActive - n generalizing s with
  | zero => exact ⟨s, .enough (by omega)⟩
  | succ k ih =>
    have hover : n < s.countActive := by omega
    obtain ⟨r, hlast⟩ : ∃ r, s.recent.getLast? = some r := by
      rw [← Option.isSome_iff_exists, List.getLast?_isSome, ← List.length_pos_iff, ← countActive_eq]
      omega
    have hold : s.Oldest r := h.oldest_iff.mpr hlast
    obtain ⟨u, hrest⟩ := ih h.deleted (by rw [h.countActive_deleted hold]; omega)
    exact ⟨u, .oldest hover hold (hold.delete) hrest⟩

/-! ### What the statement tells and leaves -/

theorem Sound.length_surplus (h : s.Sound) (n : Nat) :
    (s.slots.filter fun r => (s.surplus n).contains r.id).length = s.countActive - n := by
  have hnodup : ((s.slots.filter fun r => (s.surplus n).contains r.id).map (·.id)).Nodup :=
    h.nodup.sublist (List.filter_sublist.map _)
  have hsurplus : (s.surplus n).Nodup := h.recent_nodup.sublist ((List.drop_sublist n s.recent).map _)
  have hperm : ((s.slots.filter fun r => (s.surplus n).contains r.id).map (·.id)).Perm (s.surplus n) := by
    refine (List.perm_ext_iff_of_nodup hnodup hsurplus).mpr fun i => ?_
    simp only [List.mem_map, List.mem_filter, List.contains_iff_mem]
    constructor
    · rintro ⟨r, ⟨-, hr⟩, rfl⟩
      exact hr
    · intro hi
      obtain ⟨r, hr, rfl⟩ := List.mem_map.mp hi
      exact ⟨r, ⟨(mem_recent.mp (List.mem_of_mem_drop hr)).1, hi⟩, rfl⟩
  have hlength := hperm.length_eq
  rwa [List.length_map, surplus_eq, List.length_map, List.length_drop, ← countActive_eq] at hlength

theorem Sound.trim_ok (h : s.Sound) (n : Nat) : s.trim n = .ok (s.countActive - n, s.trimmed n) := by
  rw [trim_eq, h.length_surplus]

/-- As many active rows as the limit are newer than one that is retired. -/
theorem Sound.newer_surplus (h : s.Sound) (hq : q ∈ s.slots) (hsurplus : q.id ∈ s.surplus n) :
    q.isActive = true ∧ n ≤ (s.activeRows.filter q.olderThan).length := by
  obtain ⟨r, hr, hid⟩ := List.mem_map.mp hsurplus
  obtain ⟨hmem, hact⟩ := mem_recent.mp (List.mem_of_mem_drop hr)
  rw [h.eq_of_id_eq hmem hq hid] at hr hact
  refine ⟨hact, ?_⟩
  have hnewest := h.recent_newestFirst
  rw [← List.take_append_drop n s.recent] at hnewest
  have hnewer : ∀ p ∈ s.recent.take n, q.olderThan p = true := fun p hp =>
    Row.olderThan_iff.mpr ((List.pairwise_append.mp hnewest).2.2 p hp q hr)
  have hlength : (s.recent.take n).length = n := by
    have hpos := List.length_pos_of_mem hr
    rw [List.length_drop, ← recent] at hpos
    rw [List.length_take]
    omega
  calc n = ((s.recent.take n).filter q.olderThan).length := by rw [List.filter_eq_self.mpr hnewer, hlength]
    _ ≤ (s.recent.filter q.olderThan).length := ((List.take_sublist n s.recent).filter _).length_le
    _ = (s.activeRows.filter q.olderThan).length := ((recent_perm s).filter _).length_eq

theorem Sound.row?_trimmed (h : s.Sound) (hq : q ∈ s.slots)
    (hkept : q.isActive = false ∨ (s.activeRows.filter q.olderThan).length < n) :
    (s.trimmed n).row? q.id = some q := by
  refine (h.trimmed n).row?_of_mem (mem_changeRows.mpr ⟨q, hq, if_neg fun hin => ?_⟩)
  obtain ⟨hact, hnewer⟩ := h.newer_surplus hq (List.contains_iff_mem.mp hin)
  rcases hkept with hinactive | hfew
  · rw [hact] at hinactive
    cases hinactive
  · omega

end Store

open Board Store

/-- Retiring the surplus tells how many rows it is, and leaves the rows that are left by deleting the oldest active row
again and again. The newest active rows, as many as the limit, and the inactive rows are not touched. -/
theorem trim_is_repeated_deletion {b : Board} {s : Store} (h : b.Reachable) (hs : b.database = .ready s) (n : Nat) :
    ∃ t, s.trim n = .ok (s.countActive - n, t) ∧
      (∃ u, Shed n (s.countActive - n) s u) ∧
      (∀ k u, Shed n k s u → k = s.countActive - n ∧ u.slots = t.slots) ∧
      ∀ q ∈ s.slots, q.isActive = false ∨ (s.activeRows.filter q.olderThan).length < n → t.row? q.id = some q := by
  have hsound := h.sound hs
  exact ⟨s.trimmed n, hsound.trim_ok n, hsound.exists_shed n, fun _ _ hshed => hsound.shed_eq hshed,
    fun _ hq hkept => hsound.row?_trimmed hq hkept⟩

/-- Three files of the same time. -/
def threeAtOnce : Board := (fresh ⟨fun _ => 1000, 0⟩).after [
  (.of 3, .insert (.file ⟨"a", "image/png", ByteArray.empty⟩)),
  (.of 3, .insert (.file ⟨"b", "image/png", ByteArray.empty⟩)),
  (.of 3, .insert (.file ⟨"c", "image/png", ByteArray.empty⟩))]

theorem threeAtOnce_ready : threeAtOnce.database = .ready {
    slots := [fill 1000 (.file ⟨"a", "image/png", ByteArray.empty⟩) (.fresh 1),
      fill 1000 (.file ⟨"b", "image/png", ByteArray.empty⟩) (.fresh 2),
      fill 1000 (.file ⟨"c", "image/png", ByteArray.empty⟩) (.fresh 3)]
    index := some { entries := [], faults := 0 } } := by
  cbv

/-- Two of the three files are surplus. -/
theorem trim_threeAtOnce : threeAtOnce.Reachable ∧ ∃ s t, threeAtOnce.database = .ready s ∧ s.trim 1 = .ok (2, t) ∧
    ∃ u, Shed 1 2 s u ∧ u.slots = t.slots := by
  have hreachable : threeAtOnce.Reachable := (fresh_reachable _).after _
  obtain ⟨t, htrim, ⟨u, hshed⟩, hall, -⟩ := trim_is_repeated_deletion hreachable threeAtOnce_ready 1
  exact ⟨hreachable, _, t, threeAtOnce_ready, htrim, u, hshed, (hall _ u hshed).2⟩

end Pasteboard
