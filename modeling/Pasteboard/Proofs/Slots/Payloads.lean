import Pasteboard.Proofs.Slots.Calls
import Pasteboard.Proofs.Slots.Reading
/-!
The payload of one slot under each change.

Filling and replacing give a slot the payload that they are about and leave every other slot as it is.
What is retired loses its payload and can gain none. So after a call a slot holds what the call gives it,
unless it was cut off as surplus.
-/

namespace Pasteboard
open Board

namespace Store
variable {s : Store} {p : Row → Bool} {f : Row → Row} {c : Capacity} {id i now : Int} {x y : Payload} {r before : Row}
  {actor : Actor} {b : Board}

/-! ### Rows by id -/

theorem row?_changeRows (hf : ∀ r, (f r).id = r.id) :
    (s.changeRows p f).row? id = (s.row? id).map fun r => if p r then f r else r := by
  have hid : ((fun r : Row => r.id == id) ∘ fun r => if p r then f r else r) = fun r => r.id == id := by
    funext r
    by_cases hp : p r = true <;> simp [hp, hf]
  rw [row?, changeRows_slots, List.find?_map, hid]
  rfl

/-- Retiring rows leaves what a retired row keeps. -/
theorem map_row?_retire {α : Type} {g : Row → α} (hg : ∀ r, g r.retired = g r) :
    ((s.changeRows p Row.retired).row? id).map g = (s.row? id).map g := by
  have hkept : g ∘ (fun r => if p r then r.retired else r) = g := by
    funext r
    by_cases hp : p r = true <;> simp [hp, hg]
  rw [row?_changeRows Row.retired_id, Option.map_map, hkept]

theorem row?_setRow (hf : ∀ r, (f r).id = r.id) :
    (s.setRow i f).row? id = if id = i then (s.row? id).map f else s.row? id := by
  rw [setRow, row?_changeRows hf]
  cases hrow : s.row? id with
  | none => simp
  | some r =>
    obtain ⟨-, rfl⟩ := row?_eq_some hrow
    by_cases hid : r.id = i <;> simp [hid]

theorem row?_claim (h : id ≠ (s.claim c).1) : (s.claim c).2.row? id = s.row? id := by
  cases ht : s.target c with
  | some r => rw [claim_of_some ht]
  | none =>
    rw [claim_of_none ht] at h ⊢
    have hnew : (Row.fresh (nextId (s.slots.map (·.id)))).id ≠ id := fun he => h he.symm
    rw [row?, addRow_slots, List.find?_append, List.find?_cons_of_neg (by simpa using hnew)]
    exact Option.or_none

/-- The row that a new payload takes is filled, and the others stay. -/
theorem row?_filled : (s.filled c now x).row? id =
    if id = (s.claim c).1 then some (fill now x (Row.fresh id)) else s.row? id := by
  rw [filled, row?_setRow fill_id]
  by_cases hid : id = (s.claim c).1
  · obtain ⟨r, hr, hrid⟩ := claim_mem (s := s) (c := c)
    have hsome : ((s.claim c).2.row? id).isSome = true := by
      rw [Option.isSome_iff_ne_none, Ne, row?_eq_none]
      exact fun hnone => hnone r hr (hrid.trans hid.symm)
    obtain ⟨q, hq⟩ := Option.isSome_iff_exists.mp hsome
    obtain ⟨-, rfl⟩ := row?_eq_some hq
    rw [if_pos hid, if_pos hid, hq, Option.map_some, fill_eq_fresh]
  · rw [if_neg hid, if_neg hid, row?_claim hid]

/-- The row that is replaced is refilled, and the others stay. -/
theorem row?_rewritten (h : s.row? i = some before) : (s.rewritten now before x actor).row? id =
    if id = i then some (refill now x before) else s.row? id := by
  obtain ⟨-, rfl⟩ := row?_eq_some h
  have hrow : (s.rewritten now before x actor).row? id =
      if id = before.id then (s.row? id).map (refill now x) else s.row? id := row?_setRow refill_id
  by_cases hid : id = before.id
  · rw [hrow, if_pos hid, if_pos hid, hid, h, Option.map_some]
  · rw [hrow, if_neg hid, if_neg hid]

/-! ### Payloads by id -/

theorem payload?_of_row (h : s.row? id = some r) (hact : r.isActive = true) : s.payload? id = some r.payload := by
  rw [payload?, h]
  exact if_pos hact

theorem payload?_filled :
    (s.filled c now x).payload? id = if id = (s.claim c).1 then some x else s.payload? id := by
  rw [payload?, row?_filled]
  by_cases hid : id = (s.claim c).1
  · rw [if_pos hid, if_pos hid, Option.bind_some, if_pos (fill_isActive _), fill_payload]
  · rw [if_neg hid, if_neg hid]
    rfl

theorem payload?_rewritten (h : s.row? i = some before) :
    (s.rewritten now before x actor).payload? id = if id = i then some x else s.payload? id := by
  rw [payload?, row?_rewritten h]
  by_cases hid : id = i
  · rw [if_pos hid, if_pos hid, Option.bind_some, if_pos (refill_isActive _), refill_payload]
  · rw [if_neg hid, if_neg hid]
    rfl

/-- Retiring rows gives no slot a payload. -/
theorem payload?_of_retire (h : (s.changeRows p Row.retired).payload? id = some x) : s.payload? id = some x := by
  rw [payload?, row?_changeRows Row.retired_id] at h
  cases hrow : s.row? id with
  | none => rw [hrow] at h; cases h
  | some r =>
    rw [hrow] at h
    by_cases hp : p r = true
    · simp [hp] at h
    · simpa [payload?, hrow, hp] using h

/-- Retiring rows takes its payload from a slot or leaves it. -/
theorem payload?_retire : (s.changeRows p Row.retired).payload? id = none ∨
    (s.changeRows p Row.retired).payload? id = s.payload? id := by
  cases hx : (s.changeRows p Row.retired).payload? id with
  | none => exact Or.inl rfl
  | some x => exact Or.inr (payload?_of_retire hx).symm

theorem payload?_deleted : (s.deleted i).payload? id = if id = i then none else s.payload? id := by
  rw [deleted, payload?, row?_changeRows Row.retired_id, payload?]
  cases hrow : s.row? id with
  | none => simp
  | some r =>
    obtain ⟨-, rfl⟩ := row?_eq_some hrow
    by_cases hid : r.id = i
    · cases hact : r.isActive <;> simp [hid, hact]
    · simp [hid]

/-! ### Reading a payload -/

theorem Sound.payload?_eq_some (h : s.Sound) :
    s.payload? id = some x ↔ ∃ r ∈ s.recent, r.id = id ∧ r.payload = x := by
  rw [Store.payload?, Option.bind_eq_some_iff]
  constructor
  · rintro ⟨r, hrow, hx⟩
    obtain ⟨hr, hid⟩ := row?_eq_some hrow
    cases hact : r.isActive with
    | false => rw [hact] at hx; cases hx
    | true =>
      rw [hact] at hx
      exact ⟨r, mem_recent.mpr ⟨hr, hact⟩, hid, Option.some.inj hx⟩
  · rintro ⟨r, hr, rfl, rfl⟩
    obtain ⟨hmem, hact⟩ := mem_recent.mp hr
    exact ⟨r, h.row?_of_mem hmem, if_pos hact⟩

theorem Sound.payload?_eq_none (h : s.Sound) (hb : b.database = .ready s) :
    s.payload? id = none ↔ ((getSlot id).on b).1 = .error .notFound := by
  rw [h.getSlot_notFound_iff hb, Option.eq_none_iff_forall_ne_some]
  constructor
  · rintro hnone ⟨r, hr, hid⟩
    exact hnone r.payload (h.payload?_eq_some.mpr ⟨r, hr, hid, rfl⟩)
  · intro hnone x hx
    obtain ⟨r, hr, hid, -⟩ := h.payload?_eq_some.mp hx
    exact hnone ⟨r, hr, hid⟩

/-- What can be read of a slot tells its payload. -/
theorem Sound.holds_iff (h : s.Sound) (hb : b.database = .ready s) : b.Holds id x ↔ s.payload? id = some x := by
  constructor
  · rintro ⟨⟨q, hget, -, -, hbody⟩, hfile⟩
    cases hy : s.payload? id with
    | none =>
      rw [(h.payload?_eq_none hb).mp hy] at hget
      cases hget
    | some y =>
      obtain ⟨r, hr, rfl, rfl⟩ := h.payload?_eq_some.mp hy
      obtain ⟨⟨q', hget', -, -, hbody'⟩, hfile'⟩ := h.holds hb hr
      cases hget.symm.trans hget'
      rw [hbody'] at hbody
      cases x with
      | text content => rw [Payload.eq_text_of_body hbody]
      | file upload =>
        cases hp : r.payload with
        | text content => rw [hp] at hbody; cases hbody
        | file upload' =>
          have hsame := (hfile upload rfl).symm.trans (hfile' upload' hp)
          rw [Except.ok.inj hsame]
  · intro hx
    obtain ⟨r, hr, rfl, rfl⟩ := h.payload?_eq_some.mp hx
    exact h.holds hb hr

end Store

/-! ### Calls -/

/-- What a call that answers with `v` gives a slot: the payload that it writes there, or what the slot held. -/
def SlotCall.given (s : Store) (id : Int) (v : Option Int) : SlotCall → Option Payload
  | .insert x => if v = some id then some x else s.payload? id
  | .rewrite i how _ => if id = i then how.payload? (s.payload? id) (s.snapshot? id) else s.payload? id
  | .delete i => if id = i then none else s.payload? id

open Store in
/-- After a call a slot holds what the call gives it, or nothing if it was cut off as surplus. -/
theorem Performed.payload? {s t : Store} {b b' : Board} {c : Capacity} {call : SlotCall} {v : Option Int}
    (hp : Performed c b s call v b') (ht : b'.database = .ready t) (id : Int) :
    t.payload? id = none ∨ t.payload? id = call.given s id v := by
  cases hp with
  | @insert x =>
    cases ht
    have hgiven : (SlotCall.insert x).given s id (some (s.claim c).1) = (s.filled c b.now x).payload? id := by
      simp only [SlotCall.given, payload?_filled, Option.some_inj, eq_comm]
    rw [hgiven]
    exact payload?_retire
  | @rewrite i how actor before x hplan =>
    cases ht
    obtain ⟨hx, hrow⟩ := plan_eq_ok.mp hplan
    have hgiven : (SlotCall.rewrite i how actor).given s id none =
        (s.rewritten b.now before x actor).payload? id := by
      rw [SlotCall.given, payload?_rewritten hrow]
      by_cases hid : id = i
      · rw [if_pos hid, if_pos hid, hid, hx]
      · rw [if_neg hid, if_neg hid]
    rw [hgiven]
    exact payload?_retire
  | delete =>
    cases ht
    exact Or.inr payload?_deleted

end Pasteboard
