import Pasteboard.Proofs.Slots.Calls
/-!
The full-text index follows the rows.

Whatever is done to slots, and however often the index is taken away and added again, its entries
with a text are those of the active text rows, and no entry is removed that is not there. A change of
rows reaches the index row by row: the entry of the row before is removed, that of the row after is
added. An index that is added also has entries without a text, which no change ever removes.
-/

namespace Pasteboard

namespace Search
variable {x : Index} {e : Entry} {l l' : List Entry} {r old new : Row} {rows rows' : List Row} {p : Row → Bool}
  {f : Row → Row}

/-- The entries that rows call for: those of the active texts. -/
def textEntries (rows : List Row) : List Entry := (rows.filter Row.isActiveText).map entryOf

theorem textEntries_append : textEntries (rows ++ rows') = textEntries rows ++ textEntries rows' := by
  simp [textEntries]

theorem updateCommands_eq :
    updateCommands old new = (textEntries [old]).map .remove ++ (textEntries [new]).map .add := by
  cases ho : old.isActiveText <;> cases hn : new.isActiveText <;> simp [updateCommands, textEntries, ho, hn]

theorem mem_textEntries : e ∈ textEntries rows ↔ ∃ r ∈ rows, r.isActiveText = true ∧ entryOf r = e := by
  simp [textEntries, and_assoc]

/-- A row that may be stored has a text if it is an active text. -/
theorem text_isSome (h : ∀ r ∈ rows, r.check = true) (he : e ∈ textEntries rows) : e.text.isSome = true := by
  obtain ⟨r, hr, htext, rfl⟩ := mem_textEntries.mp he
  exact Option.isSome_iff_exists.mpr (Row.exists_content (h r hr) htext)

namespace Index

/-- The entries with a text are those of a list, and no removal missed its entry. -/
structure Holds (x : Index) (l : List Entry) : Prop where
  entries : (x.entries.filter (·.text.isSome)).Perm l
  faults : x.faults = 0

namespace Holds

theorem perm (h : x.Holds l) (hl : l.Perm l') : x.Holds l' := ⟨h.entries.trans hl, h.faults⟩

theorem add (h : x.Holds l) (he : e.text.isSome = true) : (x.apply (.add e)).Holds (e :: l) where
  entries := by
    have hnew : [e].filter (·.text.isSome) = [e] := by simp [he]
    show ((x.entries ++ [e]).filter (·.text.isSome)).Perm (e :: l)
    rw [List.filter_append, hnew]
    exact (List.perm_append_singleton e _).trans (h.entries.cons e)
  faults := h.faults

/-- An entry that is listed is there to be removed. -/
theorem remove (h : x.Holds (e :: l)) : (x.apply (.remove e)).Holds l := by
  obtain ⟨hmem, -⟩ := List.mem_filter.mp (h.entries.mem_iff.mpr List.mem_cons_self)
  have happly : x.apply (.remove e) = { x with entries := x.entries.erase e } :=
    if_pos (List.contains_iff_mem.mpr hmem)
  rw [happly]
  refine ⟨?_, h.faults⟩
  show ((x.entries.erase e).filter (·.text.isSome)).Perm l
  rw [← List.erase_filter]
  simpa using h.entries.erase e

/-! ### Changes of rows -/

theorem addAll (h : x.Holds l) (hl : ∀ e ∈ l', e.text.isSome = true) : (x.applyAll (l'.map .add)).Holds (l' ++ l) := by
  induction l' generalizing x l with
  | nil => exact h
  | cons e l' ih =>
    have hrest := ih (h.add (hl e List.mem_cons_self)) fun d hd => hl d (List.mem_cons_of_mem _ hd)
    exact hrest.perm List.perm_middle

theorem removeAll (h : x.Holds (l' ++ l)) : (x.applyAll (l'.map .remove)).Holds l := by
  induction l' generalizing x with
  | nil => exact h
  | cons e l' ih => exact ih h.remove

/-- The entry of a changed row takes the place of the one before. -/
theorem updateRow (h : x.Holds (textEntries [old] ++ l)) (hnew : new.check = true) :
    (x.applyAll (updateCommands old new)).Holds (textEntries [new] ++ l) := by
  rw [updateCommands_eq, applyAll, List.foldl_append]
  exact (h.removeAll).addAll fun e he => text_isSome (by simpa using hnew) he

/-- The commands for all changed rows, next to entries `l` of other rows. -/
theorem changeRows (h : x.Holds (l ++ textEntries rows)) (hf : ∀ r, (f r).check = true) :
    (x.applyAll ((rows.filter p).flatMap fun r => updateCommands r (f r))).Holds
      (l ++ textEntries (rows.map fun r => if p r then f r else r)) := by
  -- By induction on the rows, where `l` grows by the entry of each row that is done.
  induction rows generalizing x l with
  | nil => exact h
  | cons r rows ih =>
    rw [← List.singleton_append, textEntries_append, ← List.append_assoc] at h
    rw [List.map_cons, ← List.singleton_append (l := List.map _ rows), textEntries_append, ← List.append_assoc]
    by_cases hp : p r = true
    · rw [List.filter_cons_of_pos hp, List.flatMap_cons, applyAll, List.foldl_append, if_pos hp]
      refine ih ?_
      rw [List.append_assoc] at h ⊢
      exact ((h.perm (List.perm_append_comm_assoc ..)).updateRow (hf r)).perm (List.perm_append_comm_assoc ..)
    · rw [List.filter_cons_of_neg hp, if_neg hp]
      exact ih h

end Holds

theorem rebuild_holds (h : ∀ r ∈ rows, r.check = true) : (rebuild rows).Holds (textEntries rows) where
  entries := by
    have hrows : (rows.map entryOf).filter (·.text.isSome) = textEntries rows := by
      rw [textEntries, List.filter_map]
      congr 1
      refine List.filter_congr fun r hr => ?_
      rcases Row.check_cases (h r hr) with ⟨hact, hcontent, -⟩ | ⟨content, hact, hfile, hcontent, -⟩ |
          ⟨_, _, _, hact, hfile, hcontent, -⟩
      · simp [Row.isActiveText, entryOf, hact, hcontent]
      · simp [Row.isActiveText, entryOf, hact, hfile, hcontent]
      · simp [Row.isActiveText, entryOf, hact, hfile, hcontent]
    exact hrows ▸ List.Perm.refl _
  faults := rfl

end Index

end Search

open Board Search

variable {s t : Store} {p : Row → Bool} {f : Row → Row} {c : Capacity} {now id : Int} {y : Payload} {before : Row}
  {actor : Actor} {b b' : Board} {call : SlotCall} {v : Option Int}

namespace Store

/-- The data is sound, and the index, if there is one, has the entries that the rows call for. -/
structure Indexed (s : Store) : Prop where
  sound : s.Sound
  index : ∀ x, s.index = some x → x.Holds (textEntries s.slots)

namespace Indexed

theorem changeRows (h : s.Indexed) (hid : ∀ r, (f r).id = r.id) (hf : ∀ r, (f r).check = true) :
    (s.changeRows p f).Indexed where
  sound := h.sound.changeRows hid hf
  index := by
    intro x hx
    obtain ⟨x₀, hx₀, rfl⟩ := Option.map_eq_some_iff.mp hx
    have hholds : x₀.Holds ([] ++ textEntries s.slots) := h.index x₀ hx₀
    exact hholds.changeRows hf

theorem retire (h : s.Indexed) : (s.changeRows p Row.retired).Indexed := h.changeRows Row.retired_id Row.retired_check

/-- An empty row has no entry. -/
theorem addFresh (h : s.Indexed) : (s.addRow (Row.fresh (nextId (s.slots.map (·.id))))).Indexed where
  sound := h.sound.addFresh
  index := by
    intro x hx
    obtain ⟨x₀, hx₀, rfl⟩ := Option.map_eq_some_iff.mp hx
    rw [addRow_slots, textEntries_append]
    exact (h.index x₀ hx₀).perm (List.append_nil _ ▸ List.Perm.refl _)

theorem claim (h : s.Indexed) : (s.claim c).2.Indexed := by
  cases ht : s.target c with
  | some r => rw [claim_of_some ht]; exact h
  | none => rw [claim_of_none ht]; exact h.addFresh

theorem filled (h : s.Indexed) : (s.filled c now y).Indexed := h.claim.changeRows fill_id fill_check

theorem rewritten (h : s.Indexed) : (s.rewritten now before y actor).Indexed := by
  have hset : (s.setRow before.id (refill now y)).Indexed := h.changeRows refill_id refill_check
  exact ⟨h.sound.rewritten, hset.index⟩

theorem performed (h : s.Indexed) (hp : Performed c b s call v b') (ht : b'.database = .ready t) : t.Indexed := by
  cases hp with
  | insert => cases ht; exact h.filled.retire
  | rewrite => cases ht; exact h.rewritten.retire
  | delete => cases ht; exact h.retire

/-- An index that is added is built from the rows, and one that is there is kept. -/
theorem reindexed (h : s.Indexed) {index : Option Index}
    (hindex : index = none ∨ index = s.index ∨ index = some (Index.rebuild s.slots)) :
    Store.Indexed { s with index } := by
  refine ⟨⟨h.sound.ids, h.sound.check⟩, fun x hx => ?_⟩
  rcases hindex with hnone | hsame | hnew
  · cases hnone.symm.trans hx
  · exact h.index x (hsame.symm.trans hx)
  · cases hnew.symm.trans hx
    exact Index.rebuild_holds h.sound.check

theorem empty : Store.Indexed {} := ⟨Store.Sound.empty, fun _ hx => by cases hx⟩

end Indexed

end Store

/-! ### Runs -/

/-- A step of the upkeep of a board: a call, or the tables are made again, with or without an index. -/
inductive Upkeep
  | call (c : Capacity) (call : SlotCall)
  | tables (fullText : Bool)

/-- The board after a step. -/
def Upkeep.on (b : Board) : Upkeep → Board
  | .call c call => ((call.perform c).on b).2
  | .tables fullText => ((createTables fullText).on b).2

/-- The board after steps. -/
def Board.through (b : Board) (steps : List Upkeep) : Board := steps.foldl Upkeep.on b

/-- All data that a board holds is indexed as it should be. -/
def Board.InStep (b : Board) : Prop := ∀ s, b.database = .ready s → s.Indexed

namespace Board.InStep

theorem perform (h : b.InStep) (c : Capacity) (call : SlotCall) : ((call.perform c).on b).2.InStep := by
  intro t ht
  obtain ⟨s, hs⟩ := ready_before ht
  rcases same_or_performed hs ht with rfl | ⟨v, -, hp⟩
  · exact h t hs
  · exact (h s hs).performed hp ht

theorem store (h : b.InStep) : b.store.Indexed := by
  by_cases hready : ∃ s, b.database = .ready s
  · obtain ⟨s, hs⟩ := hready
    rw [store_eq hs]
    exact h s hs
  · rw [store_unready (not_exists.mp hready)]
    exact .empty

theorem tables (h : b.InStep) (fullText : Bool) : ((createTables fullText).on b).2.InStep := by
  obtain ⟨index, hindex, hcreate⟩ := on_createTables fullText b
  rw [hcreate]
  intro t ht
  cases ht
  exact h.store.reindexed hindex

theorem through (h : b.InStep) (steps : List Upkeep) : (b.through steps).InStep := by
  induction steps generalizing b with
  | nil => exact h
  | cons step steps ih =>
    cases step with
    | call c call => exact ih (h.perform c call)
    | tables fullText => exact ih (h.tables fullText)

end Board.InStep

/-- In every run of calls, with any capacities and any clock, and of steps that add the index or take it away:
while there is an index, its entries with a text are those of the active text rows, each once, and every removal so
far found the entry that it named, with its text. -/
theorem index_follows_rows {b₀ : Board} (h₀ : ∀ s, b₀.database ≠ .ready s) (steps : List Upkeep) {s : Store} {x : Index}
    (hs : (b₀.through steps).database = .ready s) (hx : s.index = some x) :
    (x.entries.filter (·.text.isSome)).Perm ((s.slots.filter Row.isActiveText).map entryOf) ∧ x.faults = 0 := by
  have hstart : b₀.InStep := fun s hs => absurd hs (h₀ s)
  have hholds := ((hstart.through steps) s hs).index x hx
  exact ⟨hholds.entries, hholds.faults⟩

/-- A slot is deleted while there is no index, and its id is taken again. -/
def deletedUnindexed : List Upkeep := [.tables true, .call (.of 2) (.insert (.text "a")),
  .call (.of 2) (.insert (.text "b")), .tables false, .call (.of 2) (.delete 1), .tables true,
  .call (.of 2) (.insert (.text "c"))]

/-- The index that is added has an entry without a text for the row of the deleted slot. -/
theorem index_follows_rows_rebuilt : ∃ s x,
    (Board.through ⟨.blank, counting, ⟨fun _ => "", 0⟩⟩ deletedUnindexed).database = .ready s ∧
    s.index = some x ∧ x.entries = [⟨1, none⟩, ⟨2, some "b"⟩, ⟨1, some "c"⟩] ∧
    (x.entries.filter (·.text.isSome)).Perm ((s.slots.filter Row.isActiveText).map entryOf) ∧ x.faults = 0 := by
  have hs : (Board.through ⟨.blank, counting, ⟨fun _ => "", 0⟩⟩ deletedUnindexed).database = .ready {
      slots := [Store.fill 1002 (.text "c") (.fresh 1), Store.fill 1001 (.text "b") (.fresh 2)]
      index := some { entries := [⟨1, none⟩, ⟨2, some "b"⟩, ⟨1, some "c"⟩], faults := 0 } } := by
    cbv
  exact ⟨_, _, hs, rfl, rfl, index_follows_rows (fun _ h => by cases h) deletedUnindexed hs rfl⟩

end Pasteboard
