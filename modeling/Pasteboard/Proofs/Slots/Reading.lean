import Pasteboard.Proofs.Board.Action
import Pasteboard.Proofs.Slots.Newest
/-!
What is read off a board.

The answers to questions about single slots and to listings, in terms of the active rows from the
newest to the oldest.
-/

namespace Pasteboard

/-- The slot with an id is active and holds a payload: its record shows the payload, and a file is given back
whole. -/
def Board.Holds (b : Board) (id : Int) (x : Payload) : Prop :=
  (∃ r, ((getSlot id).on b).1 = .ok r ∧ r.id = id ∧ r.isActive = true ∧ r.body = x.body) ∧
    ∀ upload, x = .file upload → ((getFile id).on b).1 = .ok upload

/-- The slot with an id is among the `n` newest. -/
def Board.Lists (b : Board) (n : Nat) (id : Int) : Prop :=
  ∃ records, ((list n {} (.offset 0)).on b).1 = .ok records ∧ ∃ r ∈ records, r.id = id

open Board Store

variable {b : Board} {s : Store} {id : Int} {r : Row}

theorem Board.not_holds_of_notFound {x : Payload} (h : ((getSlot id).on b).1 = .error .notFound) : ¬b.Holds id x := by
  rintro ⟨⟨r, hr, -⟩, -⟩
  cases h.symm.trans hr

theorem Store.Sound.holds (h : s.Sound) (hb : b.database = .ready s) (hr : r ∈ s.recent) : b.Holds r.id r.payload := by
  have hact := (mem_recent.mp hr).2
  refine ⟨⟨r.record, ?_, rfl, hact, Row.body_eq hact⟩, fun upload hx => ?_⟩
  · rw [on_getSlot hb, h.get_of_mem hr]
  · cases hfile : r.isFile with
    | false => rw [Row.payload, hfile] at hx; cases hx
    | true =>
      rw [Row.payload, hfile] at hx
      cases hx
      rw [on_getFile hb, h.getFile_of_mem hr hfile]

theorem Board.lists_iff (hb : b.database = .ready s) (n : Nat) :
    b.Lists n id ↔ ∃ r ∈ s.recent.take n, r.id = id := by
  rw [Board.Lists, on_list hb, list_eq]
  constructor
  · rintro ⟨records, hrecords, q, hq, hid⟩
    cases hrecords
    obtain ⟨r, hr, rfl⟩ := List.mem_map.mp hq
    exact ⟨r, hr, hid⟩
  · rintro ⟨r, hr, hid⟩
    exact ⟨_, rfl, r.record, List.mem_map_of_mem hr, hid⟩

theorem Store.Sound.getSlot_notFound_iff (h : s.Sound) (hb : b.database = .ready s) :
    ((getSlot id).on b).1 = .error .notFound ↔ ¬∃ r ∈ s.recent, r.id = id := by
  rw [on_getSlot hb]
  constructor
  · rintro he ⟨r, hr, rfl⟩
    rw [h.get_of_mem hr] at he
    cases he
  · exact fun hnone => get_of_not_mem fun r hr hid => hnone ⟨r, hr, hid⟩

end Pasteboard
