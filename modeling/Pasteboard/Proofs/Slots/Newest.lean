import Pasteboard.Proofs.Slots.Recency
import Pasteboard.Proofs.Slots.Rows
/-!
The active rows from the newest to the oldest.

Listings, the latest id, the surplus over a capacity and the row that a new payload overwrites are all
read off this one list. Each change of the store is a small change of it: a row is put in front, is
changed in its place or leaves it, and what is retired as surplus is cut off behind.
-/

namespace Pasteboard

namespace Store
variable {s : Store} {p : Row → Bool} {f : Row → Row} {id now : Int} {r before : Row} {c : Capacity} {x : Payload}
  {actor : Actor} {T : Set Int}

/-- The active rows from the newest to the oldest. -/
def recent (s : Store) : List Row := Order.desc.sort s.activeRows

theorem recent_perm (s : Store) : s.recent.Perm s.activeRows := Order.sort_perm _ _

theorem mem_activeRows : r ∈ s.activeRows ↔ r ∈ s.slots ∧ r.isActive = true := List.mem_filter

theorem mem_recent : r ∈ s.recent ↔ r ∈ s.slots ∧ r.isActive = true :=
  (recent_perm s).mem_iff.trans mem_activeRows

theorem recent_length (s : Store) : s.recent.length = s.activeRows.length := (recent_perm s).length_eq

theorem recent_length_le (s : Store) : s.recent.length ≤ s.slots.length :=
  (recent_length s).trans_le (List.length_filter_le _ _)

namespace Sound

theorem eq_of_id_eq (h : s.Sound) {t : Row} (hr : r ∈ s.slots) (ht : t ∈ s.slots) (he : r.id = t.id) : r = t :=
  Pasteboard.eq_of_id_eq h.nodup hr ht he

theorem activeRows_nodup (h : s.Sound) : (s.activeRows.map (·.id)).Nodup :=
  h.nodup.sublist (List.filter_sublist.map _)

theorem recent_newestFirst (h : s.Sound) : NewestFirst s.recent := newestFirst_sort h.activeRows_nodup

theorem recent_nodup (h : s.Sound) : (s.recent.map (·.id)).Nodup :=
  ((recent_perm s).map _).nodup_iff.mpr h.activeRows_nodup

/-- A list of the active rows is the list of them from the newest to the oldest if it is in this order. -/
theorem recent_eq (h : s.Sound) {l : List Row} (hp : l.Perm s.activeRows) (hl : NewestFirst l) : s.recent = l :=
  sort_desc_eq h.activeRows_nodup hp hl

end Sound

/-! ### Questions -/

theorem latestId_eq : s.latestId = s.recent.head?.map (·.id) := rfl

theorem surplus_eq (n : Nat) : s.surplus n = (s.recent.drop n).map (·.id) := rfl

theorem defaultFilter_selects : ({} : Filter).predicate.selects = fun r => r.isActive := by
  funext r
  cases h : r.isActive <;>
    simp [Filter.predicate, Predicate.add, Predicate.selects, evalAll, Condition.eval, Row.cell,
      Relation.holds, and3, h]

theorem countActive_eq : s.countActive = s.recent.length := by
  rw [recent_length, countActive, count, defaultFilter_selects]
  rfl

theorem list_eq (n : Nat) : s.list n {} (.offset 0) = (s.recent.take n).map Row.record := by
  have hsel : (fun r => ({} : Filter).predicate.selects r && true) = fun r => r.isActive := by
    simp only [defaultFilter_selects, Bool.and_true]
  show ((({} : Filter).order.sort (s.slots.filter fun r => ({} : Filter).predicate.selects r && true)).drop
    (min 0 9223372036854775807) |>.take n).map Row.record = _
  rw [hsel]
  rfl

theorem filter_ne_eq_self (h : ∀ r ∈ s.recent, r.id ≠ id) : (s.recent.filter fun r => r.id != id) = s.recent :=
  List.filter_eq_self.mpr fun r hr => bne_iff_ne.mpr (h r hr)

theorem any_active_iff : s.slots.any (fun r => r.id == id && r.isActive) = true ↔ ∃ r ∈ s.recent, r.id = id := by
  simp only [List.any_eq_true, Bool.and_eq_true, beq_iff_eq, mem_recent]
  exact exists_congr fun r => by rw [and_assoc, and_comm (a := r.isActive = true)]

theorem row?_eq_some (h : s.row? id = some r) : r ∈ s.slots ∧ r.id = id :=
  ⟨List.mem_of_find?_eq_some h, by simpa using List.find?_some h⟩

theorem row?_eq_none : s.row? id = none ↔ ∀ r ∈ s.slots, r.id ≠ id := by
  simp [row?, List.find?_eq_none]

theorem get_of_not_mem (h : ∀ r ∈ s.recent, r.id ≠ id) : s.get id = .error .notFound := by
  have hnone : s.slots.find? (fun r => r.id == id && r.isActive) = none := by
    refine List.find?_eq_none.mpr fun r hr hsel => ?_
    rw [Bool.and_eq_true, beq_iff_eq] at hsel
    exact h r (mem_recent.mpr ⟨hr, hsel.2⟩) hsel.1
  rw [get, hnone]

namespace Sound

theorem row?_of_mem (h : s.Sound) (hr : r ∈ s.slots) : s.row? r.id = some r := by
  cases hrow : s.row? r.id with
  | none => exact absurd rfl (row?_eq_none.mp hrow r hr)
  | some t =>
    obtain ⟨ht, hid⟩ := row?_eq_some hrow
    rw [h.eq_of_id_eq ht hr hid]

theorem inactive_iff (h : s.Sound) (hb : before ∈ s.slots) :
    before.isActive = false ↔ ¬∃ r ∈ s.recent, r.id = before.id := by
  constructor
  · rintro hact ⟨r, hr, hid⟩
    obtain ⟨hmem, hr⟩ := mem_recent.mp hr
    rw [h.eq_of_id_eq hmem hb hid, hact] at hr
    cases hr
  · intro hnone
    cases hact : before.isActive with
    | false => rfl
    | true => exact absurd ⟨before, mem_recent.mpr ⟨hb, hact⟩, rfl⟩ hnone

/-- The row that a search by id and another condition finds. -/
theorem find?_of_mem (h : s.Sound) {q : Row → Bool} (hr : r ∈ s.slots) (hq : q r = true) :
    s.slots.find? (fun t => t.id == r.id && q t) = some r := by
  cases hrow : s.slots.find? (fun t => t.id == r.id && q t) with
  | none =>
    have hno := List.find?_eq_none.mp hrow r hr
    simp [hq] at hno
  | some t =>
    have hsel := List.find?_some hrow
    rw [Bool.and_eq_true, beq_iff_eq] at hsel
    rw [h.eq_of_id_eq (List.mem_of_find?_eq_some hrow) hr hsel.1]

theorem get_of_mem (h : s.Sound) (hr : r ∈ s.recent) : s.get r.id = .ok r.record := by
  obtain ⟨hmem, hact⟩ := mem_recent.mp hr
  rw [get, h.find?_of_mem hmem hact]

theorem getFile_of_mem (h : s.Sound) (hr : r ∈ s.recent) (hfile : r.isFile = true) :
    s.getFile r.id = .ok ⟨r.filename.getD "", r.mime.getD "", r.blob.getD ByteArray.empty⟩ := by
  obtain ⟨hmem, hact⟩ := mem_recent.mp hr
  rw [getFile, h.find?_of_mem hmem (by simp [Row.isActiveFile, hact, hfile])]

/-- The active row that a new payload overwrites is the last. -/
theorem oldest_eq (h : s.Sound) : (Order.asc.sort s.activeRows).head? = s.recent.getLast? := by
  rw [sort_asc_eq h.activeRows_nodup, List.head?_reverse]
  rfl

end Sound

/-! ### Retired rows -/

theorem activeRows_retire : (s.changeRows p Row.retired).activeRows = s.activeRows.filter fun r => !p r := by
  unfold activeRows
  rw [changeRows_slots]
  induction s.slots with
  | nil => rfl
  | cons r rows ih =>
    rw [List.map_cons, List.filter_cons, List.filter_cons]
    cases hp : p r <;> cases hact : r.isActive <;> simp [hp, hact, ih, -List.filter_filter]

theorem Sound.recent_retire (h : s.Sound) : (s.changeRows p Row.retired).recent = s.recent.filter fun r => !p r := by
  refine h.retire.recent_eq ?_ (h.recent_newestFirst.sublist List.filter_sublist)
  rw [activeRows_retire]
  exact (recent_perm s).filter _

/-- What is retired as surplus is cut off behind. -/
theorem Sound.recent_trimmed (h : s.Sound) (n : Nat) : (s.trimmed n).recent = s.recent.take n := by
  rw [Store.trimmed, h.recent_retire, surplus_eq]
  have hn := h.recent_nodup
  rw [← List.take_append_drop n s.recent, List.map_append, List.nodup_append] at hn
  obtain ⟨-, -, hdisjoint⟩ := hn
  have hkept : ∀ r ∈ s.recent.take n, (!((s.recent.drop n).map (·.id)).contains r.id) = true := by
    intro r hr
    rw [Bool.not_eq_true', ← Bool.not_eq_true, List.contains_iff_mem]
    exact fun hmem => hdisjoint r.id (List.mem_map_of_mem hr) r.id hmem rfl
  have hcut : ∀ r ∈ s.recent.drop n, ¬(!((s.recent.drop n).map (·.id)).contains r.id) = true := by
    intro r hr
    rw [Bool.not_eq_true', Bool.not_eq_false, List.contains_iff_mem]
    exact List.mem_map_of_mem hr
  calc s.recent.filter (fun r => !((s.recent.drop n).map (·.id)).contains r.id)
      = (s.recent.take n ++ s.recent.drop n).filter fun r => !((s.recent.drop n).map (·.id)).contains r.id := by
        rw [List.take_append_drop]
    _ = s.recent.take n := by
        rw [List.filter_append, List.filter_eq_self.mpr hkept, List.filter_eq_nil_iff.mpr hcut, List.append_nil]

theorem Sound.trimmed_length (h : s.Sound) {n : Nat} : (s.trimmed n).recent.length ≤ n := by
  rw [h.recent_trimmed]
  exact List.length_take_le _ _

theorem Sound.recent_deleted (h : s.Sound) (id : Int) :
    (s.deleted id).recent = s.recent.filter fun r => r.id != id := by
  rw [Store.deleted, h.recent_retire]
  refine List.filter_congr fun r hr => ?_
  rw [(mem_recent.mp hr).2, Bool.and_true]
  rfl

/-! ### Rows that are changed in their place -/

theorem recent_congr {t : Store} (h : t.slots = s.slots) : t.recent = s.recent := by
  simp only [recent, activeRows, h]

theorem Sound.recent_map (h : s.Sound) (h' : (s.changeRows p f).Sound)
    (hf : ∀ r ∈ s.slots, p r = true → (f r).isActive = r.isActive ∧ (r.isActive = true → (f r).place = r.place)) :
    (s.changeRows p f).recent = s.recent.map fun r => if p r then f r else r := by
  have hmap : (s.changeRows p f).activeRows = s.activeRows.map fun r => if p r then f r else r := by
    unfold activeRows
    rw [changeRows_slots, List.filter_map]
    congr 1
    refine List.filter_congr fun r hr => ?_
    rw [Function.comp_apply]
    by_cases hp : p r = true
    · rw [if_pos hp, (hf r hr hp).1]
    · rw [if_neg hp]
  have hplace : ∀ r ∈ s.recent, (if p r then f r else r).place = r.place := by
    intro r hr
    obtain ⟨hmem, hact⟩ := mem_recent.mp hr
    by_cases hp : p r = true
    · rw [if_pos hp, (hf r hmem hp).2 hact]
    · rw [if_neg hp]
  refine h'.recent_eq (hmap ▸ (recent_perm s).map _) (List.pairwise_map.mpr ?_)
  refine h.recent_newestFirst.imp_of_mem fun hr ht hlt => ?_
  rw [hplace _ hr, hplace _ ht]
  exact hlt

/-! ### Rows that are put in front -/

/-- The active rows after a row was filled: that row, and the others as they were. -/
theorem Sound.activeRows_setRow (h : s.Sound) (hr : r ∈ s.slots) (hact : (f r).isActive = true) :
    (s.setRow r.id f).activeRows.Perm (f r :: s.activeRows.filter fun t => t.id != r.id) := by
  obtain ⟨before, after, hsplit⟩ := List.append_of_mem hr
  have hn := h.nodup
  rw [hsplit, List.map_append, List.map_cons, List.nodup_append, List.nodup_cons] at hn
  obtain ⟨-, ⟨hafter, -⟩, hbefore⟩ := hn
  -- The rows on both sides of `r` have other ids, so they stay as they are.
  have hsame : ∀ rows : List Row, (∀ t ∈ rows, t.id ≠ r.id) →
      (rows.map fun t => if t.id == r.id then f t else t) = rows ∧ rows.filter (fun t => t.id != r.id) = rows := by
    intro rows hne
    refine ⟨(List.map_congr_left fun t ht => ?_).trans (List.map_id' rows), List.filter_eq_self.mpr fun t ht => ?_⟩
    · rw [if_neg (by simpa using hne t ht)]
    · simpa using hne t ht
  have hb := hsame before fun t ht he =>
    hbefore t.id (List.mem_map_of_mem ht) r.id (List.mem_cons_self) he
  have ha := hsame after fun t ht he => hafter (he ▸ List.mem_map_of_mem ht)
  unfold activeRows setRow
  rw [changeRows_slots, hsplit, List.filter_filter]
  simp only [Bool.and_comm _ (Row.isActive _)]
  rw [← List.filter_filter]
  simp only [List.map_append, List.map_cons, List.filter_append, List.filter_cons, bne_self_eq_false, beq_self_eq_true,
    hb, ha, hact, if_true]
  exact List.perm_middle

theorem Sound.recent_setRow (h : s.Sound) (h' : (s.setRow r.id f).Sound) (hr : r ∈ s.slots)
    (hact : (f r).isActive = true) (hnew : ∀ t ∈ s.recent, t.id ≠ r.id → t.place < (f r).place) :
    (s.setRow r.id f).recent = f r :: s.recent.filter fun t => t.id != r.id := by
  refine h'.recent_eq (((recent_perm s).filter _).cons _ |>.trans (h.activeRows_setRow hr hact).symm) ?_
  refine List.pairwise_cons.mpr ⟨fun t ht => ?_, h.recent_newestFirst.sublist List.filter_sublist⟩
  obtain ⟨ht, hne⟩ := List.mem_filter.mp ht
  exact hnew t ht (by simpa using hne)

theorem TimesIn.place_lt (h : s.TimesIn T) (hT : ∀ t ∈ T, t < now) {q : Row} (hr : r ∈ s.slots)
    (hq : q.createdAt = some now) : r.place < q.place := by
  obtain ⟨t, ht, hrt⟩ := h.rows r hr
  exact (Row.place_lt_iff hrt hq).mpr (Or.inl (hT t ht))

/-! ### New payloads -/

theorem activeRows_claim : (s.claim c).2.activeRows = s.activeRows := by
  cases ht : s.target c with
  | some r => rw [claim_of_some ht]
  | none =>
    rw [claim_of_none ht]
    exact (List.filter_append ..).trans (List.append_nil _)

theorem recent_claim : (s.claim c).2.recent = s.recent := by
  rw [recent, activeRows_claim, recent]

/-- A row is added only if every row is active and there is room for one more. -/
theorem target_eq_none (h : s.target c = none) : s.activeRows = s.slots ∧ s.slots.length < c.size := by
  unfold target at h
  split at h
  · rename_i hroom
    have hall : s.activeRows = s.slots :=
      List.filter_eq_self.mpr fun r hr => by simpa using List.find?_eq_none.mp h r hr
    exact ⟨hall, hall ▸ hroom⟩
  · rename_i hfull
    have hnil := (Order.sort_perm .asc s.activeRows).length_eq
    rw [List.head?_eq_none_iff.mp h, List.length_nil] at hnil
    have := c.size_pos
    omega

/-- The row that a new payload takes is there to be filled. -/
theorem claim_mem : ∃ r ∈ (s.claim c).2.slots, r.id = (s.claim c).1 := by
  cases ht : s.target c with
  | some r =>
    rw [claim_of_some ht]
    refine ⟨r, ?_, rfl⟩
    unfold target at ht
    split at ht
    · exact List.mem_of_find?_eq_some ht
    · exact (mem_activeRows.mp ((Order.sort_perm .asc s.activeRows).mem_iff.mp (List.mem_of_head? ht))).1
  | none =>
    rw [claim_of_none ht]
    exact ⟨_, List.mem_append_right _ (List.mem_singleton_self _), rfl⟩

theorem Sound.activeRows_filled (h : s.Sound) : (s.filled c now x).activeRows.Perm
    (fill now x (Row.fresh (s.claim c).1) :: s.activeRows.filter fun t => t.id != (s.claim c).1) := by
  obtain ⟨r, hr, hid⟩ := claim_mem (s := s) (c := c)
  have hperm := (h.claim (c := c)).activeRows_setRow (f := fill now x) hr (fill_isActive r)
  rwa [fill_eq_fresh, hid, activeRows_claim] at hperm

theorem Sound.recent_filled (h : s.Sound)
    (hnew : ∀ t ∈ s.recent, t.id ≠ (s.claim c).1 → t.place < (fill now x (Row.fresh (s.claim c).1)).place) :
    (s.filled c now x).recent =
      fill now x (Row.fresh (s.claim c).1) :: s.recent.filter fun t => t.id != (s.claim c).1 := by
  obtain ⟨r, hr, hid⟩ := claim_mem (s := s) (c := c)
  have hfill : fill now x r = fill now x (Row.fresh (s.claim c).1) := hid ▸ fill_eq_fresh r
  have hrecent := (h.claim (c := c)).recent_setRow (f := fill now x) (hid ▸ h.filled) hr (fill_isActive r)
    (by rw [recent_claim, hid, hfill]; exact hnew)
  rwa [hfill, hid, recent_claim] at hrecent

/-! ### Replacements -/

theorem recent_rewritten : (s.rewritten now before x actor).recent = (s.setRow before.id (refill now x)).recent :=
  recent_congr rfl

/-- An active row is replaced in its place. -/
theorem Sound.recent_rewritten_active (h : s.Sound) (hb : before ∈ s.recent) :
    (s.rewritten now before x actor).recent =
      s.recent.map fun r => if r.id = before.id then refill now x before else r := by
  obtain ⟨hmem, hact⟩ := mem_recent.mp hb
  have hsame : ∀ r ∈ s.slots, (r.id == before.id) = true → r = before := fun r hr he =>
    h.eq_of_id_eq hr hmem (beq_iff_eq.mp he)
  rw [recent_rewritten, setRow, h.recent_map (h.changeRows refill_id refill_check)]
  · refine List.map_congr_left fun r hr => ?_
    by_cases he : r.id = before.id
    · rw [if_pos (beq_iff_eq.mpr he), if_pos he, hsame r (mem_recent.mp hr).1 (beq_iff_eq.mpr he)]
    · rw [if_neg (by simpa using he), if_neg he]
  · intro r hr he
    obtain rfl := hsame r hr he
    exact ⟨by rw [refill_isActive, hact],
      fun _ => Row.place_congr (by rw [refill_createdAt, if_pos hact]) (refill_id r)⟩

/-- A revived row is put in front. -/
theorem Sound.recent_rewritten_inactive (h : s.Sound) (hb : before ∈ s.slots) (hact : before.isActive = false)
    (hnew : ∀ t ∈ s.recent, t.place < (refill now x before).place) :
    (s.rewritten now before x actor).recent = refill now x before :: s.recent := by
  rw [recent_rewritten, h.recent_setRow (h.changeRows refill_id refill_check) hb (refill_isActive _)
    fun t ht _ => hnew t ht]
  rw [filter_ne_eq_self fun r hr he => (h.inactive_iff hb).mp hact ⟨r, hr, he⟩]

end Store

end Pasteboard
