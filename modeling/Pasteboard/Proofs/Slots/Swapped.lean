import Pasteboard.Proofs.Search.Swapped
import Pasteboard.Proofs.Slots.Payloads
/-!
One slot with another payload.

Data that differs in the payload of one active slot differs in its row and the entry of the row in the index, and in
nothing else. Every operation on another slot keeps it so, and once the slot is retired or filled anew nothing is left
of the difference.
-/

namespace Pasteboard

/-- The data with another payload of the same kind in one slot, if the slot is active. -/
def Store.swapped (id : Int) (y : Payload) (s : Store) : Store :=
  { s with slots := s.slots.map (Row.swapped id y), index := s.index.map (Search.Index.swapped id y) }

namespace Store
open Search

variable {id i now : Int} {x y z : Payload} {s : Store} {p : Row → Bool} {f : Row → Row} {c : Capacity} {before : Row}
    {actor : Actor}

attribute [ext] Store

theorem swapped_ids : (s.swapped id y).slots.map (·.id) = s.slots.map (·.id) := by
  simp [Store.swapped, Function.comp_def]

/-! ### Changes of rows -/

/-- A text that is entered is that of an active row. -/
theorem Indexed.row_of_entry (h : s.Indexed) {X : Index} (hX : s.index = some X) {d : Entry} (hd : d ∈ X.entries)
    (htext : d.text.isSome = true) : ∃ r ∈ s.slots, r.isActiveText = true ∧ entryOf r = d :=
  mem_textEntries.mp ((h.index X hX).entries.mem_iff.mp (List.mem_filter.mpr ⟨hd, htext⟩))

/-- All text that is entered under an id is that of its row. -/
theorem Indexed.entry (h : s.Indexed) (id : Int) : ∃ e₀, (∀ r ∈ s.slots, r.id = id → entryOf r = e₀) ∧
    ∀ X, s.index = some X → ∀ d ∈ X.entries, d.id = id → d.text.isSome = true → d = e₀ := by
  cases hrow : s.row? id with
  | none =>
    refine ⟨⟨id, none⟩, fun r hr hid => absurd hid (row?_eq_none.mp hrow r hr), fun X hX d hd hid htext => ?_⟩
    obtain ⟨r, hr, -, rfl⟩ := h.row_of_entry hX hd htext
    exact absurd hid (row?_eq_none.mp hrow r hr)
  | some r₀ =>
    obtain ⟨hr₀, rfl⟩ := row?_eq_some hrow
    refine ⟨entryOf r₀, fun r hr hid => by rw [h.sound.eq_of_id_eq hr hr₀ hid], fun X hX d hd hid htext => ?_⟩
    obtain ⟨r, hr, -, rfl⟩ := h.row_of_entry hX hd htext
    rw [h.sound.eq_of_id_eq hr hr₀ hid]

/-- No text is entered under the id of a slot that is not active. -/
theorem Indexed.no_entry (h : s.Indexed) (hgone : ∀ r ∈ s.slots, r.id = id → r.isActive = false) {X : Index}
    (hX : s.index = some X) {d : Entry} (hd : d ∈ X.entries) : ¬(d.id = id ∧ d.text.isSome = true) := by
  rintro ⟨hid, htext⟩
  obtain ⟨r, hr, hact, rfl⟩ := h.row_of_entry hX hd htext
  simp [Row.isActiveText, hgone r hr hid] at hact

/-- Nothing differs if the slot is not active. -/
theorem Indexed.swapped_self (h : s.Indexed) (hgone : ∀ r ∈ s.slots, r.id = id → r.isActive = false) :
    s.swapped id y = s := by
  have hslots : s.slots.map (Row.swapped id y) = s.slots := by
    refine (List.map_congr_left fun r hr => ?_).trans (List.map_id _)
    by_cases hid : r.id = id
    · exact Row.swapped_of_inactive (hgone r hr hid)
    · exact Row.swapped_of_ne hid
  have hindex : s.index.map (Index.swapped id y) = s.index := by
    cases hX : s.index with
    | none => rfl
    | some X =>
      have hentries : X.entries.map (Entry.swapped id y) = X.entries :=
        (List.map_congr_left fun d hd => Entry.swapped_of_not (h.no_entry hgone hX hd)).trans (List.map_id _)
      simp [Index.swapped, hentries]
  exact Store.ext hslots rfl rfl rfl rfl hindex

/-- A change that treats the rows that differ alike, and enters no text under the id. -/
theorem Indexed.changeRows_swapped (h : s.Indexed) (hp : ∀ r : Row, p (r.swapped id y) = p r)
    (hf : ∀ r, p r = true → f (r.swapped id y) = (f r).swapped id y) (hcheck : ∀ r, (f r).check = true)
    (hnew : ∀ r, p r = true → (f r).id = id → (f r).isActiveText = false) :
    (s.changeRows p f).swapped id y = (s.swapped id y).changeRows p f := by
  obtain ⟨e₀, hrow, hentry⟩ := h.entry id
  have hslots : (s.changeRows p f).slots.map (Row.swapped id y) = ((s.swapped id y).changeRows p f).slots := by
    rw [changeRows_slots, changeRows_slots, Store.swapped, List.map_map, List.map_map]
    refine List.map_congr_left fun r _ => ?_
    by_cases hr : p r = true
    · simp [hp, hr, hf]
    · simp [hp, hr]
  have hcommands : (((s.slots.map (Row.swapped id y)).filter p).flatMap fun r => updateCommands r (f r)) =
      ((s.slots.filter p).flatMap fun r => updateCommands r (f r)).map (Command.map (Entry.swapped id y)) := by
    have hfilter : p ∘ Row.swapped id y = p := funext hp
    rw [List.filter_map, hfilter, List.flatMap_map, List.map_flatMap]
    refine List.flatMap_congr fun r hr => ?_
    obtain ⟨hmem, hr⟩ := List.mem_filter.mp hr
    rw [hf r hr, updateCommands_swapped (h.sound.check r hmem) (hcheck r)]
  have hindex : (s.changeRows p f).index.map (Index.swapped id y) = ((s.swapped id y).changeRows p f).index := by
    show (s.index.map _).map _ = (s.index.map (Index.swapped id y)).map _
    rw [Option.map_map, Option.map_map]
    cases hX : s.index with
    | none => rfl
    | some X =>
      refine congrArg some ((Index.applyAll_swapped (hentry X hX) fun k hk hid => ?_).trans ?_)
      · obtain ⟨r, hr, hk⟩ := List.mem_flatMap.mp hk
        obtain ⟨hmem, hr⟩ := List.mem_filter.mp hr
        rcases mem_updateCommands hk with ⟨-, he⟩ | ⟨htext, he⟩
        · rw [he] at hid ⊢
          exact hrow r hmem hid
        · rw [he] at hid
          rw [hnew r hr hid] at htext
          cases htext
      · exact congrArg _ hcommands.symm
  exact Store.ext hslots rfl rfl rfl rfl hindex

theorem Indexed.retire_swapped (h : s.Indexed) (hp : ∀ r : Row, p (r.swapped id y) = p r) :
    (s.changeRows p Row.retired).swapped id y = (s.swapped id y).changeRows p Row.retired :=
  h.changeRows_swapped hp (fun _ _ => Row.retired_swapped.trans (Row.swapped_of_inactive rfl).symm)
    Row.retired_check fun _ _ _ => rfl

theorem Indexed.deleted_swapped (h : s.Indexed) : (s.deleted i).swapped id y = (s.swapped id y).deleted i :=
  h.retire_swapped fun r => by simp

/-- A change of another row. -/
theorem Indexed.setRow_swapped (h : s.Indexed) (hi : i ≠ id) (hid : ∀ r, (f r).id = r.id)
    (hcheck : ∀ r, (f r).check = true) :
    (s.setRow i f).swapped id y = (s.swapped id y).setRow i f := by
  have hother : ∀ r : Row, (r.id == i) = true → (f r).id ≠ id := fun r hr => by
    rw [hid, beq_iff_eq.mp hr]
    exact hi
  refine h.changeRows_swapped (fun r => by simp) (fun r hr => ?_) hcheck fun r hr he => absurd he (hother r hr)
  have hne : r.id ≠ id := hid r ▸ hother r hr
  rw [Row.swapped_of_ne hne, Row.swapped_of_ne (hother r hr)]

/-! ### Filling the row -/

theorem filter_id (hn : (s.slots.map (·.id)).Nodup) : s.slots.filter (·.id == id) = (s.row? id).toList := by
  have hids : ((s.slots.filter (·.id == id)).map (·.id)).Nodup := hn.sublist (List.filter_sublist.map _)
  have hid : ∀ r ∈ s.slots.filter (·.id == id), r.id = id := fun r hr => beq_iff_eq.mp (List.mem_filter.mp hr).2
  rw [row?, ← List.head?_filter]
  revert hids hid
  generalize s.slots.filter (·.id == id) = rows
  intro hids hid
  rcases rows with _ | ⟨r, _ | ⟨q, rows⟩⟩
  · rfl
  · rfl
  · have hne : r.id ∉ (q :: rows).map (·.id) := (List.nodup_cons.mp hids).1
    refine absurd (List.mem_map.mpr ⟨q, List.mem_cons_self, ?_⟩) hne
    rw [hid r List.mem_cons_self, hid q (List.mem_cons_of_mem _ List.mem_cons_self)]

/-- A row that is filled might as well have been retired before. -/
theorem setRow_fill_deleted (hn : (s.slots.map (·.id)).Nodup) :
    (s.deleted id).setRow id (fill now z) = s.setRow id (fill now z) := by
  have hretired : ∀ r : Row, fill now z r.retired = fill now z r := fun r => by
    rw [fill_eq_fresh, fill_eq_fresh r, Row.retired_id]
  have hslots : ((s.deleted id).setRow id (fill now z)).slots = (s.setRow id (fill now z)).slots := by
    rw [deleted, setRow, setRow, changeRows_slots, changeRows_slots, changeRows_slots, List.map_map]
    refine List.map_congr_left fun r _ => ?_
    by_cases hid : r.id = id <;> cases hact : r.isActive <;> simp [hid, hact, hretired]
  -- Only one row has the id, so that the removal of its entry comes first either way.
  have hcommands : ((s.slots.filter fun r => r.id == id && r.isActive).flatMap fun r => updateCommands r r.retired) ++
      (((s.deleted id).slots.filter (·.id == id)).flatMap fun r => updateCommands r (fill now z r)) =
      (s.slots.filter (·.id == id)).flatMap fun r => updateCommands r (fill now z r) := by
    have hn' : ((s.deleted id).slots.map (·.id)).Nodup := by rwa [deleted, changeRows_ids Row.retired_id]
    have hactive : (s.slots.filter fun r => r.id == id && r.isActive) = (s.row? id).toList.filter (·.isActive) := by
      rw [← filter_id hn, List.filter_filter]
      simp only [Bool.and_comm]
    rw [hactive, filter_id hn, filter_id hn', deleted, row?_changeRows Row.retired_id]
    cases hrow : s.row? id with
    | none => rfl
    | some r =>
      obtain ⟨-, hid⟩ := row?_eq_some hrow
      cases hact : r.isActive <;> cases hfile : r.isFile <;>
        simp [updateCommands, Row.isActiveText, hact, hfile, hid, hretired]
  have hindex : ((s.deleted id).setRow id (fill now z)).index = (s.setRow id (fill now z)).index := by
    show (s.index.map _).map _ = s.index.map _
    rw [Option.map_map, ← hcommands]
    refine congrArg (s.index.map ·) (funext fun X => ?_)
    exact (List.foldl_append ..).symm
  exact Store.ext hslots rfl rfl rfl rfl hindex

theorem Indexed.deleted (h : s.Indexed) : (s.deleted id).Indexed := h.retire

theorem deleted_inactive : ∀ r ∈ (s.deleted id).slots, r.id = id → r.isActive = false := by
  intro r hr hid
  obtain ⟨q, -, rfl⟩ := mem_changeRows.mp hr
  by_cases hq : (q.id == id && q.isActive) = true
  · rw [if_pos hq]
    rfl
  · rw [if_neg hq] at hid ⊢
    simpa [hid] using hq

/-- Whatever filled the row before, it is filled anew. -/
theorem Indexed.swapped_setRow_fill (h : s.Indexed) :
    (s.swapped id y).setRow id (fill now z) = s.setRow id (fill now z) := by
  have hn : ((s.swapped id y).slots.map (·.id)).Nodup := by
    rw [swapped_ids]
    exact h.sound.nodup
  calc (s.swapped id y).setRow id (fill now z)
      = ((s.swapped id y).deleted id).setRow id (fill now z) := (setRow_fill_deleted hn).symm
    _ = (s.deleted id).setRow id (fill now z) := by rw [← h.deleted_swapped, h.deleted.swapped_self deleted_inactive]
    _ = s.setRow id (fill now z) := setRow_fill_deleted h.sound.nodup

/-- Two payloads of one kind that fill the row leave data that differs in the payload of this row. -/
theorem Indexed.setRow_fill_swapped (h : s.Indexed) (hkind : x.isFile = y.isFile) :
    (s.setRow id (fill now x)).swapped id y = s.setRow id (fill now y) := by
  rw [← setRow_fill_deleted h.sound.nodup, ← setRow_fill_deleted h.sound.nodup]
  have ht : (s.deleted id).Indexed := h.deleted
  have hgone : ∀ r ∈ (s.deleted id).slots, r.id = id → r.isActive = false := deleted_inactive
  generalize s.deleted id = t at ht hgone
  have hslots : (t.setRow id (fill now x)).slots.map (Row.swapped id y) = (t.setRow id (fill now y)).slots := by
    rw [setRow, setRow, changeRows_slots, changeRows_slots, List.map_map]
    refine List.map_congr_left fun r _ => ?_
    by_cases hid : r.id = id
    · subst hid
      simp [Row.swapped_fill hkind]
    · simp [hid, Row.swapped_of_ne]
  have hcommands : ((t.slots.filter (·.id == id)).flatMap fun r => updateCommands r (fill now x r)).map
      (Command.map (Entry.swapped id y)) =
      (t.slots.filter (·.id == id)).flatMap fun r => updateCommands r (fill now y r) := by
    rw [List.map_flatMap]
    refine List.flatMap_congr fun r hr => ?_
    obtain ⟨hmem, hid⟩ := List.mem_filter.mp hr
    obtain rfl := beq_iff_eq.mp hid
    rw [← updateCommands_swapped (ht.sound.check r hmem) (fill_check r), Row.swapped_fill hkind,
      Row.swapped_of_inactive (hgone r hmem rfl)]
  have hindex : (t.setRow id (fill now x)).index.map (Index.swapped id y) = (t.setRow id (fill now y)).index := by
    show (t.index.map _).map _ = t.index.map _
    rw [← hcommands, Option.map_map]
    cases hX : t.index with
    | none => rfl
    | some X =>
      have hself : X.swapped id y = X := by
        have hindex := congrArg Store.index (ht.swapped_self (y := y) hgone)
        simpa [Store.swapped, hX] using hindex
      have hadded : ∀ k ∈ (t.slots.filter (·.id == id)).flatMap fun r => updateCommands r (fill now x r),
          k.entry = entryOf (fill now x (Row.fresh id)) := by
        intro k hk
        obtain ⟨r, hr, hk⟩ := List.mem_flatMap.mp hk
        obtain ⟨hmem, hid⟩ := List.mem_filter.mp hr
        rcases mem_updateCommands hk with ⟨htext, -⟩ | ⟨-, he⟩
        · simp [Row.isActiveText, hgone r hmem (beq_iff_eq.mp hid)] at htext
        · rw [he, fill_eq_fresh, beq_iff_eq.mp hid]
      refine congrArg some ?_
      show (X.applyAll _).swapped id y = X.applyAll _
      rw [Index.applyAll_swapped (fun d hd hid htext => absurd ⟨hid, htext⟩ (ht.no_entry hgone hX hd))
        fun k hk _ => hadded k hk, hself]
  exact Store.ext hslots rfl rfl rfl rfl hindex

/-! ### Operations on other slots -/

theorem activeRows_swapped : (s.swapped id y).activeRows = s.activeRows.map (Row.swapped id y) := by
  have hact : (fun r : Row => r.isActive) ∘ Row.swapped id y = fun r => r.isActive := by
    funext r
    simp
  rw [activeRows, Store.swapped, List.filter_map, hact, activeRows]

/-- The order of rows does not depend on payloads. -/
theorem sort_swapped (o : Order) (rows : List Row) :
    o.sort (rows.map (Row.swapped id y)) = (o.sort rows).map (Row.swapped id y) := by
  have holder : ∀ r q : Row, (r.swapped id y).olderThan (q.swapped id y) = r.olderThan q := fun r q => by
    simp [Row.olderThan]
  refine (List.map_mergeSort fun r _ q _ => ?_).symm
  cases o <;> simp [Order.allows, holder]

theorem surplus_swapped (n : Nat) : (s.swapped id y).surplus n = s.surplus n := by
  rw [surplus, activeRows_swapped, sort_swapped, ← List.map_drop, List.map_map, surplus]
  exact List.map_congr_left fun r _ => Row.swapped_id

theorem target_swapped : (s.swapped id y).target c = (s.target c).map (Row.swapped id y) := by
  have hfree : (fun r : Row => !r.isActive) ∘ Row.swapped id y = fun r => !r.isActive := by
    funext r
    simp
  rw [target, activeRows_swapped, List.length_map, target]
  by_cases hroom : s.activeRows.length < c.size
  · rw [if_pos hroom, if_pos hroom, Store.swapped, List.find?_map, hfree]
  · rw [if_neg hroom, if_neg hroom, sort_swapped, List.head?_map]

theorem Indexed.trimmed_swapped (h : s.Indexed) (n : Nat) :
    (s.trimmed n).swapped id y = (s.swapped id y).trimmed n := by
  rw [trimmed, trimmed, surplus_swapped]
  exact h.retire_swapped fun r => by rw [Row.swapped_id]

theorem claim_swapped : (s.swapped id y).claim c = ((s.claim c).1, (s.claim c).2.swapped id y) := by
  cases ht : s.target c with
  | some r =>
    have ht' : (s.swapped id y).target c = some (r.swapped id y) := by rw [target_swapped, ht]; rfl
    rw [claim_of_some ht, claim_of_some ht', Row.swapped_id]
  | none =>
    have ht' : (s.swapped id y).target c = none := by rw [target_swapped, ht]; rfl
    rw [claim_of_none ht, claim_of_none ht', swapped_ids]
    refine Prod.ext rfl (Store.ext ?_ rfl rfl rfl rfl ?_)
    · simp [Store.swapped, Row.swapped_of_inactive, Row.fresh]
    · show (s.index.map _).map _ = (s.index.map _).map _
      rw [Option.map_map, Option.map_map]
      rfl

/-- A new payload in another slot. -/
theorem Indexed.filled_swapped (h : s.Indexed) (hid : (s.claim c).1 ≠ id) :
    (s.filled c now z).swapped id y = (s.swapped id y).filled c now z := by
  rw [Store.filled, Store.filled, claim_swapped]
  exact h.claim.setRow_swapped hid fill_id fill_check

/-- A new payload in the slot itself. -/
theorem Indexed.swapped_filled (h : s.Indexed) (hid : (s.claim c).1 = id) :
    (s.swapped id y).filled c now z = s.filled c now z := by
  rw [Store.filled, Store.filled, claim_swapped, hid]
  exact h.claim.swapped_setRow_fill

theorem Indexed.rewritten_swapped (h : s.Indexed) (hid : before.id ≠ id) :
    (s.rewritten now before z actor).swapped id y = (s.swapped id y).rewritten now before z actor := by
  rw [Store.rewritten, Store.rewritten, ← h.setRow_swapped hid refill_id refill_check]
  rfl

end Store

end Pasteboard
