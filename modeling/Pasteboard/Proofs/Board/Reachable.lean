import Pasteboard.Proofs.Access.Calls
import Pasteboard.Proofs.Slots.Calls
/-!
The boards that operations lead to.

All operations count: those on slots, with any capacities, those on keys and address rules, and making
the tables, with the index or without. What every one of them keeps is packaged once (`Board.Reachable.keeps`).
Keys and rules are kept apart from the slots, so nothing but the operations on slots changes rows.
-/

namespace Pasteboard
open Board Store

/-- A board that operations lead to from one without tables. -/
inductive Board.Reachable : Board → Prop
  | start {b : Board} (h : ∀ s, b.database ≠ .ready s) : b.Reachable
  | tables {b : Board} (h : b.Reachable) (fullText : Bool) : ((createTables fullText).on b).2.Reachable
  | slots {b : Board} (h : b.Reachable) (c : Capacity) (call : SlotCall) : ((call.perform c).on b).2.Reachable
  | access {b : Board} (h : b.Reachable) (call : AccessCall) : (call.on b).Reachable

variable {b : Board} {s t : Store}

/-- What holds of empty data and is kept by every operation holds of all data that operations lead to. -/
theorem Board.Reachable.kept {I : Store → Prop} (h : b.Reachable) (empty : I {})
    (tables : ∀ (s : Store) (index : Option Search.Index),
      index = none ∨ index = s.index ∨ index = some (Search.Index.rebuild s.slots) → I s → I { s with index })
    (slots : ∀ {c b s call v b' t}, Performed c b s call v b' → b'.database = .ready t → I s → I t)
    (access : ∀ (b : Board) (call : AccessCall), I b.store → I (call.on b).store) : I b.store := by
  induction h with
  | start h => rwa [store_unready h]
  | @tables b _ fullText ih =>
    obtain ⟨index, hindex, hcreate⟩ := on_createTables fullText b
    rw [hcreate, store_eq rfl]
    exact tables _ index hindex ih
  | @slots b _ c call ih =>
    by_cases hready : ∃ s, b.database = .ready s
    · obtain ⟨s, hs⟩ := hready
      rw [store_eq hs] at ih
      rcases perform_cases hs c call with ⟨e, he | he⟩ | ⟨v, b', he, hp⟩ <;> rw [he]
      · rwa [store_eq hs]
      · rwa [store_eq (b := b.ticked) hs]
      · obtain ⟨t, ht⟩ := hp.ready
        rw [store_eq ht]
        exact slots hp ht ih
    · obtain ⟨e, b', he, hsame, -⟩ := perform_unready (not_exists.mp hready) c call
      rwa [he, store_congr hsame]
  | @access b _ call ih => exact access b call ih

/-- The same, where an operation on keys or rules keeps it by what it does to the data. -/
theorem Board.Reachable.keeps {I : Store → Prop} (h : b.Reachable) (empty : I {})
    (tables : ∀ (s : Store) (index : Option Search.Index),
      index = none ∨ index = s.index ∨ index = some (Search.Index.rebuild s.slots) → I s → I { s with index })
    (slots : ∀ {c b s call v b' t}, Performed c b s call v b' → b'.database = .ready t → I s → I t)
    (access : ∀ {s t : Store}, s.Accessed t → I s → I t) : I b.store :=
  h.kept empty tables slots fun b call => access (call.accessed b)

theorem Store.Sound.of_slots (h : s.Sound) (hslots : t.slots = s.slots) : t.Sound := by
  refine ⟨?_, ?_⟩ <;> rw [hslots]
  · exact h.ids
  · exact h.check

/-- Rows count from one without a gap and satisfy the constraint, whatever was done. -/
theorem Board.Reachable.sound (h : b.Reachable) (hs : b.database = .ready s) : s.Sound := by
  rw [← store_eq hs]
  exact h.keeps .empty (fun _ _ _ hs => hs.of_slots rfl) (fun hp ht hs => hp.sound hs ht)
    fun hmove hs => hs.of_slots hmove.slots

/-- Every row has a time of creation, whatever was done. -/
theorem Board.Reachable.created (h : b.Reachable) : b.store.CreatedIn Set.univ :=
  h.keeps (fun _ hr => absurd hr List.not_mem_nil) (fun _ _ _ hs => hs)
    (fun hp ht hs => hp.createdIn ht hs (Set.mem_univ _))
    fun hmove hs r hr => hs r (hmove.slots ▸ hr)

theorem Board.Reachable.after (h : b.Reachable) (calls : List (Capacity × SlotCall)) : (b.after calls).Reachable := by
  induction calls generalizing b with
  | nil => exact h
  | cons call calls ih => exact ih (h.slots call.1 call.2)

theorem Board.fresh_reachable (clock : Supply Int) : (fresh clock).Reachable :=
  .tables (.start fun _ h => by cases h) true

end Pasteboard
