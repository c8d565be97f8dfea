import Pasteboard.Proofs.Slots.Calls
import Pasteboard.Proofs.Slots.Reading
/-!
What is read right after a replacement.

A replacement keeps an active row in its place and puts an inactive one in front, and then the
surplus is cut off behind. So with a clock that never repeats itself the row is there to be read
exactly if it was inactive, or among as many of the newest as the capacity says. Otherwise the call
succeeds, and what it wrote is gone.
-/

namespace Pasteboard

open Board Store

variable {b b' b₀ : Board} {s : Store} {c : Capacity} {id now : Int} {how : Rewrite} {actor : Actor} {x : Payload}
  {r before : Row} {T : Set Int} {first : Nat} {v : Option Int}

/-! ### One replacement -/

theorem rewritten_payload (hr : r ∈ (s.rewritten now before x actor).slots) (hid : r.id = before.id) :
    r.payload = x := by
  rcases mem_setRow hr with ⟨-, hne⟩ | ⟨t, -, -, rfl⟩
  · exact absurd hid hne
  · exact refill_payload t

/-- The replaced row is kept if it was inactive, or among the `n` newest. -/
theorem Store.Sound.kept_iff (h : s.Sound) (ht : s.TimesIn T) (hT : ∀ t ∈ T, t < now) (hb : before ∈ s.slots) {n : Nat}
    (hn : 0 < n) : (∃ r ∈ ((s.rewritten now before x actor).trimmed n).recent, r.id = before.id) ↔
      before.isActive = false ∨ ∃ r ∈ s.recent.take n, r.id = before.id := by
  rw [h.rewritten.recent_trimmed]
  cases hact : before.isActive with
  | true =>
    rw [h.recent_rewritten_active (mem_recent.mpr ⟨hb, hact⟩), ← List.map_take]
    simp only [Bool.true_eq_false, false_or, List.mem_map]
    constructor
    · rintro ⟨_, ⟨r, hr, rfl⟩, hid⟩
      by_cases he : r.id = before.id
      · exact ⟨r, hr, he⟩
      · rw [if_neg he] at hid
        exact absurd hid he
    · rintro ⟨r, hr, hid⟩
      exact ⟨_, ⟨r, hr, rfl⟩, by rw [if_pos hid, refill_id]⟩
  | false =>
    rw [h.recent_rewritten_inactive hb hact fun t ht' =>
      ht.place_lt hT (mem_recent.mp ht').1 (by rw [refill_createdAt, hact]; rfl)]
    obtain ⟨m, rfl⟩ : ∃ m, n = m + 1 := ⟨n - 1, by omega⟩
    exact ⟨fun _ => Or.inl rfl, fun _ => ⟨refill now x before, List.mem_cons_self, refill_id before⟩⟩

/-- Nothing else is written to the replaced row, so where it is found it holds the payload. -/
theorem Store.Sound.holds_rewritten_iff (h : s.Sound) {n : Nat}
    (hb : b.database = .ready ((s.rewritten now before x actor).trimmed n)) :
    b.Holds before.id x ↔ ∃ r ∈ ((s.rewritten now before x actor).trimmed n).recent, r.id = before.id := by
  have hsound : ((s.rewritten now before x actor).trimmed n).Sound := h.rewritten.trimmed n
  constructor
  · rintro ⟨⟨q, hq, -⟩, -⟩
    by_contra hnone
    rw [(hsound.getSlot_notFound_iff hb).mpr hnone] at hq
    cases hq
  · rintro ⟨r, hr, hid⟩
    have hholds := hsound.holds hb hr
    rw [h.rewritten.recent_trimmed] at hr
    rwa [hid, rewritten_payload (mem_recent.mp (List.mem_of_mem_take hr)).1 hid] at hholds

/-! ### Runs -/

/-- A replacement that succeeds writes its payload, and the slot holds it unless it was cut off as surplus. -/
theorem Board.Holding.replaced (hs : Holding first b s)
    (hok : ((SlotCall.rewrite id how actor).perform c).on b = (.ok v, b'))
    (hclock : StrictMonoOn b.clock.item (Set.Ico first b'.clock.used)) :
    ∃ x, how.payload? (s.payload? id) (s.snapshot? id) = some x ∧
      (b'.Holds id x ↔ ((getSlot id).on b).1 = .error .notFound ∨ b.Lists c.size id) ∧
      (b'.Holds id x ∨ ((getSlot id).on b').1 = .error .notFound) := by
  cases performed_of_ok hs.ready hok with | @rewrite _ _ _ before x hplan _ =>
  obtain ⟨hx, hrow⟩ := plan_eq_ok.mp hplan
  obtain ⟨hb, rfl⟩ := row?_eq_some hrow
  have hholds := hs.sound.holds_rewritten_iff
    (b := b.ticked.storing ((s.rewritten b.now before x actor).trimmed c.size)) rfl
  refine ⟨x, hx, ?_, ?_⟩
  · rw [hholds, hs.sound.kept_iff hs.times (readings_lt_now hclock) hb c.size_pos, hs.sound.inactive_iff hb,
      hs.sound.getSlot_notFound_iff hs.ready, lists_iff hs.ready]
  · rw [hholds, (hs.sound.rewritten.trimmed _).getSlot_notFound_iff rfl]
    exact em _

/-- In every run, with any capacities and a clock that goes forward, a replacement that succeeds has a payload
to write: the one it was given, the present one with other fields, or the saved text. Right afterwards the
slot holds that payload exactly if it was not active before, or was among as many of the newest slots as the
capacity of the call says; else it is not found. -/
theorem replacement_holds_iff (h₀ : b₀.Vacant) (calls : List (Capacity × SlotCall))
    (hok : ((SlotCall.rewrite id how actor).perform c).on (b₀.after calls) = (.ok v, b'))
    (hclock : StrictMonoOn b₀.clock.item (Set.Ico b₀.clock.used b'.clock.used)) :
    ∃ s x, (b₀.after calls).database = .ready s ∧ how.payload? (s.payload? id) (s.snapshot? id) = some x ∧
      (b'.Holds id x ↔ ((getSlot id).on (b₀.after calls)).1 = .error .notFound ∨ (b₀.after calls).Lists c.size id) ∧
      (b'.Holds id x ∨ ((getSlot id).on b').1 = .error .notFound) := by
  obtain ⟨s₀, hs₀⟩ := h₀.holding
  obtain ⟨s, hs⟩ := hs₀.after calls
  rw [← (after_clock hs₀ calls).1] at hclock
  obtain ⟨x, hreplaced⟩ := hs.replaced hok hclock
  exact ⟨s, x, hs.ready, hreplaced⟩

/-- Two slots are filled, one after the other. -/
def twoCalls : List (Capacity × SlotCall) := [(.of 2, .insert (.text "a")), (.of 2, .insert (.text "b"))]

theorem replaced_after_two (c : Capacity) : ∃ b', ((SlotCall.rewrite 1 (.update (.text "x")) {}).perform c).on
    ((fresh counting).after twoCalls) = (.ok none, b') := by
  have hs : ((fresh counting).after twoCalls).database = .ready {
      slots := [fill 1000 (.text "a") (.fresh 1), fill 1001 (.text "b") (.fresh 2)]
      index := some { entries := [⟨1, some "a"⟩, ⟨2, some "b"⟩], faults := 0 } } := by
    cbv
  exact ⟨_, on_rewrite hs⟩

/-- With a capacity of two, the older of two slots is kept when it is replaced. -/
theorem replacement_holds_iff_two : ∃ b', ((SlotCall.rewrite 1 (.update (.text "x")) {}).perform (.of 2)).on
    ((fresh counting).after twoCalls) = (.ok none, b') ∧ b'.Holds 1 (.text "x") := by
  obtain ⟨b', hok⟩ := replaced_after_two (.of 2)
  obtain ⟨s, x, -, hx, hholds, -⟩ := replacement_holds_iff (fresh_vacant counting) twoCalls hok
    (counting_strictMono.strictMonoOn _)
  cases hx
  have hlist : ((Board.list 2 {} (.offset 0)).on ((fresh counting).after twoCalls)).1 =
      .ok [⟨2, .text "b", 1001, none, 0, true⟩, ⟨1, .text "a", 1000, none, 0, true⟩] := by
    cbv
  exact ⟨b', hok, hholds.mpr (Or.inr ⟨_, hlist, _, List.mem_cons_of_mem _ (List.mem_singleton_self _), rfl⟩)⟩

/-- With a capacity of one, a replacement of the older of two slots succeeds, and the slot is gone. -/
theorem replaced_slot_is_gone : (fresh counting).Vacant ∧ StrictMono (fresh counting).clock.item ∧
    ∃ b', ((SlotCall.rewrite 1 (.update (.text "x")) {}).perform (.of 1)).on ((fresh counting).after twoCalls) =
      (.ok none, b') ∧ ((getSlot 1).on b').1 = .error .notFound ∧ ¬b'.Holds 1 (.text "x") := by
  obtain ⟨b', hok⟩ := replaced_after_two (.of 1)
  obtain ⟨s₀, hs₀⟩ := (fresh_vacant counting).holding
  obtain ⟨s, hs⟩ := hs₀.after twoCalls
  obtain ⟨x, hx, hholds, hread⟩ := hs.replaced hok
    ((after_clock hs₀ twoCalls).1 ▸ counting_strictMono.strictMonoOn _)
  cases hx
  have hfound : ((getSlot 1).on ((fresh counting).after twoCalls)).1 = .ok ⟨1, .text "a", 1000, none, 0, true⟩ := by
    cbv
  have hlist : ((Board.list 1 {} (.offset 0)).on ((fresh counting).after twoCalls)).1 =
      .ok [⟨2, .text "b", 1001, none, 0, true⟩] := by
    cbv
  have hgone : ¬b'.Holds 1 (.text "x") := by
    rw [hholds, hfound]
    rintro (hnone | ⟨records, hrecords, r, hr, hid⟩)
    · cases hnone
    · cases hlist.symm.trans hrecords
      cases List.mem_singleton.mp hr
      cases hid
  exact ⟨fresh_vacant counting, counting_strictMono, b', hok, hread.resolve_left hgone, hgone⟩

end Pasteboard
