import Pasteboard.Proofs.Board.Reachable
import Pasteboard.Proofs.Slots.Freed
import Pasteboard.Proofs.Slots.Payloads
import Pasteboard.Proofs.Slots.Snapshot
/-!
Undoing a replacement.

While no slot is surplus, a replacement of an active text leaves the slot in its place and saves the text, so
the next restoration puts it back. A restoration is itself a replacement, and is undone in the same way.
-/

namespace Pasteboard

open Board Store

namespace Store
variable {s : Store} {id now : Int} {before r : Row} {x : Payload} {actor : Actor} {n : Nat} {content : String}

/-- The text of an active row that is replaced is saved, even if the clock stands still. -/
theorem replaced_snapshot (hcheck : before.check = true) (hact : before.isActive = true)
    (htext : before.payload = .text content) (htime : ∀ e ∈ s.log, e.time ≤ now) :
    ((s.rewritten now before x actor).trimmed n).snapshot? before.id = some content := by
  have hsaved : (s.rewritten now before x actor).snapshot? before.id = some content := by
    rw [snapshot?_rewritten htime, if_pos rfl, textOf_eq hcheck, if_pos hact, htext]
    rfl
  rwa [snapshot?_congr (t := (s.rewritten now before x actor).trimmed n) rfl]

/-- A replacement of an active row is seen in its body, its time of change and its revision. -/
theorem refill_record (hact : r.isActive = true) : (refill now x r).record =
    { r.record with body := x.body, updatedAt := some now, revision := r.record.revision + 1 } := by
  cases x <;> simp [refill, Row.record, Row.body, Row.withPayload, Payload.body, hact]

/-- A record of a slot is that of an active row. -/
theorem Sound.get_eq_ok (h : s.Sound) {q : Record} (hq : s.get id = .ok q) :
    ∃ r ∈ s.recent, r.id = id ∧ r.record = q := by
  by_contra hnone
  by_cases hr : ∃ r ∈ s.recent, r.id = id
  · obtain ⟨r, hr, rfl⟩ := hr
    rw [h.get_of_mem hr] at hq
    exact hnone ⟨r, hr, rfl, Except.ok.inj hq⟩
  · rw [get_of_not_mem fun r hmem hid => hr ⟨r, hmem, hid⟩] at hq
    cases hq

end Store

variable {b b₁ : Board} {s : Store} {c : Capacity} {id revision : Int} {how : Rewrite} {actor restorer : Actor}
  {content : String} {created : Int} {updated : Option Int} {v : Option Int}

/-- What a replacement of an active text leaves for a restoration: the row in its place, and the text. -/
structure Store.Undoable (s : Store) (n : Nat) (id : Int) (content : String) (r : Row) : Prop where
  sound : s.Sound
  size : s.recent.length ≤ n
  row : r ∈ s.recent
  plan : Rewrite.restore.plan id s = .ok (r, .text content)

theorem Store.Sound.undoable (h : s.Sound) (hs : b.database = .ready s) (hcount : s.countActive ≤ c.size)
    (htime : ∀ e ∈ s.log, e.time ≤ b.now)
    (hget : ((getSlot id).on b).1 = .ok ⟨id, .text content, created, updated, revision, true⟩)
    (hok : ((SlotCall.rewrite id how actor).perform c).on b = (.ok v, b₁)) :
    ∃ t r x, b₁.database = .ready t ∧ t.keys = s.keys ∧ t.Undoable c.size id content r ∧
      r.record = ⟨id, x, created, some b.now, revision + 1, true⟩ := by
  rw [on_getSlot hs] at hget
  obtain ⟨r, hr, rfl, hrecord⟩ := h.get_eq_ok hget
  obtain ⟨hmem, hact⟩ := mem_recent.mp hr
  rw [countActive_eq] at hcount
  cases performed_of_ok hs hok with | @rewrite _ _ _ before x hplan _ =>
  obtain rfl : before = r := Option.some.inj ((plan_eq_ok.mp hplan).2.symm.trans (h.row?_of_mem hmem))
  have htext : before.payload = .text content :=
    Payload.eq_text_of_body ((Row.body_eq hact).symm.trans (congrArg Record.body hrecord))
  have hsnapshot : ((s.rewritten b.now before x actor).trimmed c.size).snapshot? before.id = some content :=
    replaced_snapshot (h.check before hmem) hact htext htime
  have hrow : refill b.now x before ∈ ((s.rewritten b.now before x actor).trimmed c.size).recent :=
    h.replaced_mem hr hcount
  have ht : ((s.rewritten b.now before x actor).trimmed c.size).Sound := h.rewritten.trimmed c.size
  refine ⟨_, refill b.now x before, x.body, rfl, rfl,
    ⟨ht, h.rewritten.trimmed_length, hrow, plan_eq_ok.mpr ⟨?_, ?_⟩⟩, ?_⟩
  · rw [Rewrite.payload?, hsnapshot]
    rfl
  · have hid : (refill b.now x before).id = before.id := refill_id before
    rw [← hid]
    exact ht.row?_of_mem (mem_recent.mp hrow).1
  · rw [refill_record hact, hrecord]

/-- In every reachable state with no more active slots than the capacity says and a clock that is not behind the log,
once an active text is replaced, a restoration on behalf of no key or of a stored one succeeds: the slot is an active
text again, with the content and the time of creation that it had, two revisions on. On behalf of a key that is not
stored a restoration fails and changes no data. -/
theorem restoration_undoes_replacement (hb : b.Reachable) (hs : b.database = .ready s) (hcount : s.countActive ≤ c.size)
    (htime : ∀ e ∈ s.log, e.time ≤ b.now)
    (hget : ((getSlot id).on b).1 = .ok ⟨id, .text content, created, updated, revision, true⟩)
    (hok : ((SlotCall.rewrite id how actor).perform c).on b = (.ok v, b₁)) (restorer : Actor) :
    (s.knows restorer = true → ∃ b₂, ((SlotCall.rewrite id .restore restorer).perform c).on b₁ = (.ok none, b₂) ∧
      ((getSlot id).on b₂).1 = .ok ⟨id, .text content, created, some b₁.now, revision + 2, true⟩) ∧
    (s.knows restorer = false → ∃ b₂, ((SlotCall.rewrite id .restore restorer).perform c).on b₁ =
      (.error (.database .foreignKey), b₂) ∧ b₂.database = b₁.database) := by
  obtain ⟨t, r, x, ht, hkeys, hundo, hrecord⟩ := (hb.sound hs).undoable hs hcount htime hget hok
  have hknows : t.knows restorer = s.knows restorer := by rw [Store.knows, hkeys, ← Store.knows]
  rw [on_rewrite ht, hundo.plan]
  dsimp only
  rw [hknows]
  refine ⟨fun hk => ?_, fun hk => ?_⟩
  · -- The slot is active, so the restoration keeps it in its place, as the replacement did.
    have hrow : refill b₁.now (.text content) r ∈
        ((t.rewritten b₁.now r (.text content) restorer).trimmed c.size).recent :=
      hundo.sound.replaced_mem hundo.row hundo.size
    have hread := (hundo.sound.rewritten.trimmed c.size).get_of_mem hrow
    rw [refill_id, refill_record (mem_recent.mp hundo.row).2, hrecord] at hread
    have hid : r.id = id := congrArg Record.id hrecord
    rw [hid] at hread
    refine ⟨_, if_pos hk, ?_⟩
    rw [on_getSlot rfl, hread]
    simp only [Payload.body, Int.add_assoc]
    rfl
  · rw [hk]
    exact ⟨b₁.ticked, rfl, rfl⟩

/-- One slot is filled with a text. -/
def oneText : Board := (fresh counting).after [(.of 2, .insert (.text "a"))]

theorem oneText_reachable : oneText.Reachable := (fresh_reachable counting).after _

theorem oneText_ready : oneText.database = .ready {
    slots := [fill 1000 (.text "a") (.fresh 1)], index := some { entries := [⟨1, some "a"⟩], faults := 0 } } := by
  cbv

theorem oneText_read : ((getSlot 1).on oneText).1 = .ok ⟨1, .text "a", 1000, none, 0, true⟩ := by
  cbv

theorem oneText_replaced : ∃ b₁, ((SlotCall.rewrite 1 (.update (.text "b")) {}).perform (.of 2)).on oneText =
    (.ok none, b₁) :=
  ⟨_, on_rewrite oneText_ready⟩

/-- The text is replaced and restored on behalf of no key. -/
theorem restoration_undoes_replacement_once : ∃ b₁ b₂,
    ((SlotCall.rewrite 1 (.update (.text "b")) {}).perform (.of 2)).on oneText = (.ok none, b₁) ∧
    ((SlotCall.rewrite 1 .restore {}).perform (.of 2)).on b₁ = (.ok none, b₂) ∧
    ((getSlot 1).on b₂).1 = .ok ⟨1, .text "a", 1000, some b₁.now, 2, true⟩ := by
  obtain ⟨b₁, hok⟩ := oneText_replaced
  obtain ⟨hknown, -⟩ := restoration_undoes_replacement oneText_reachable oneText_ready (by decide)
    (fun e he => absurd he List.not_mem_nil) oneText_read hok {}
  obtain ⟨b₂, hrestored, hread⟩ := hknown rfl
  exact ⟨b₁, b₂, hok, hrestored, hread⟩

/-- The text is replaced, and a restoration on behalf of a key that is not stored fails. -/
theorem restoration_by_unknown_key : ∃ s b₁ b₂, oneText.Reachable ∧ oneText.database = .ready s ∧
    s.countActive ≤ (Capacity.of 2).size ∧ (∀ e ∈ s.log, e.time ≤ oneText.now) ∧
    ((getSlot 1).on oneText).1 = .ok ⟨1, .text "a", 1000, none, 0, true⟩ ∧
    ((SlotCall.rewrite 1 (.update (.text "b")) {}).perform (.of 2)).on oneText = (.ok none, b₁) ∧
    ((SlotCall.rewrite 1 .restore { keyId := some 99 }).perform (.of 2)).on b₁ =
      (.error (.database .foreignKey), b₂) := by
  obtain ⟨b₁, hok⟩ := oneText_replaced
  obtain ⟨t, r, x, ht, hkeys, hundo, -⟩ := (oneText_reachable.sound oneText_ready).undoable oneText_ready (by decide)
    (fun e he => absurd he List.not_mem_nil) oneText_read hok
  have hk : t.knows { keyId := some 99 } = false := by
    rw [Store.knows, hkeys]
    rfl
  refine ⟨_, b₁, b₁.ticked, oneText_reachable, oneText_ready, by decide, fun e he => absurd he List.not_mem_nil,
    oneText_read, hok, ?_⟩
  rw [on_rewrite ht, hundo.plan]
  dsimp only
  rw [hk]
  rfl

end Pasteboard
