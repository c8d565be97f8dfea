import Pasteboard.Proofs.Log.Chain
import Pasteboard.Proofs.Log.Undo
/-!
What a deletion does not undo.

A deletion empties the slot, but the log keeps the texts that were overwritten before. No call gives a slot
a text that it does not hold, unless the text is supplied with the call or the call is a restoration, and a
restoration does not ask whether the slot was deleted.
-/

namespace Pasteboard

open Board Store

variable {b b₀ b₁ : Board} {s t : Store} {c : Capacity} {call : SlotCall} {id : Int} {v : Option Int} {content : String}
  {first : Nat} {calls later : List (Capacity × SlotCall)}

/-- A call supplies a text for a slot: as a new payload, or as the text of an update or a patch of the slot. -/
def SlotCall.Supplies (id : Int) (content : String) : SlotCall → Prop
  | .insert x => x = .text content
  | .rewrite i how _ => i = id ∧ (how = .update (.text content) ∨ how = .patchText (some content))
  | .delete _ => False

/-! ### One call -/

/-- A replacement writes a text that the slot does not hold only if it supplies or restores it. -/
theorem Rewrite.restore_of_payload? {how : Rewrite} {present : Option Payload} {saved : Option String}
    (h : how.payload? present saved = some (.text content)) (hnot : present ≠ some (.text content))
    (hupdate : how ≠ .update (.text content)) (hpatch : how ≠ .patchText (some content)) :
    how = .restore ∧ saved = some content := by
  cases how with
  | update x =>
    cases h
    exact absurd rfl hupdate
  | patchText given =>
    rcases present with _ | ⟨old⟩ | ⟨old⟩
    · cases h
    · cases given with
      | none => exact absurd (show some (Payload.text old) = some (.text content) from h) hnot
      | some given =>
        cases h
        exact absurd rfl hpatch
    · cases h
  | patchFile patch => rcases present with _ | ⟨old⟩ | ⟨old⟩ <;> cases h
  | restore =>
    rw [Rewrite.payload?, Option.map_eq_some_iff] at h
    obtain ⟨text, hsaved, htext⟩ := h
    cases htext
    exact ⟨rfl, hsaved⟩

/-- A call that brings a text to a slot without supplying it is a restoration that succeeds. -/
theorem Performed.restores {b' : Board} (hp : Performed c b s call v b') (ht : b'.database = .ready t)
    (hnot : s.payload? id ≠ some (.text content)) (hsupply : ¬call.Supplies id content)
    (hheld : t.payload? id = some (.text content)) :
    v = none ∧ s.snapshot? id = some content ∧ ∃ actor, call = .rewrite id .restore actor := by
  rcases hp.payload? ht id with hnone | hgiven
  · cases hnone.symm.trans hheld
  -- What is left are the calls that give the slot the text; it was not there to be kept.
  have hwritten : call.given s id v = some (.text content) := hgiven.symm.trans hheld
  cases hp with
  | insert =>
    rw [SlotCall.given] at hwritten
    split at hwritten
    · exact absurd (Option.some.inj hwritten) hsupply
    · exact absurd hwritten hnot
  | @rewrite i how actor =>
    rw [SlotCall.given] at hwritten
    split at hwritten
    · rename_i hid
      subst hid
      obtain ⟨rfl, hsaved⟩ := Rewrite.restore_of_payload? hwritten hnot (fun h => hsupply ⟨rfl, Or.inl h⟩)
        fun h => hsupply ⟨rfl, Or.inr h⟩
      exact ⟨rfl, hsaved, actor, rfl⟩
    · exact absurd hwritten hnot
  | delete =>
    rw [SlotCall.given] at hwritten
    split at hwritten
    · cases hwritten
    · exact absurd hwritten hnot

/-! ### Runs -/

/-- A text that is saved for a slot, but that the slot did not hold in the run, was saved before it. -/
theorem Board.Holding.saved_before (h : Holding first b s)
    (hgone : ∀ earlier, earlier <+: later → ¬(b.after earlier).Holds id (.text content))
    (hsaved : (b.after later).store.snapshot? id = some content) :
    ∃ e ∈ s.log, e.slotId = id ∧ e.contentBefore = some content := by
  obtain ⟨e, he, hid, hcontent⟩ := mem_of_snapshot? hsaved
  refine ⟨e, ?_, hid, hcontent⟩
  obtain ⟨m, hm⟩ := h.log_prefix later
  rw [← hm] at he
  refine (List.mem_append.mp he).resolve_right fun hmem => ?_
  obtain ⟨m₁, m₂, rfl⟩ := List.append_of_mem hmem
  have hlog : (b.after later).store.log = (s.log ++ m₁) ++ e :: m₂ := by rw [← hm, List.append_assoc]
  obtain ⟨earlier, call, rest, rfl, -, happends⟩ := h.written hlog (by simp)
  -- The entry would be for a replacement of that text, which the slot then held.
  obtain ⟨u, hu⟩ := h.after earlier
  obtain ⟨_, _, _, _, -, -, -, hdescribes⟩ := hu.appended happends
  refine hgone earlier (List.prefix_append _ _) ((hu.sound.holds_iff hu.ready).mpr ?_)
  have htext := hdescribes.content.symm.trans hcontent
  rw [hid, Option.bind_eq_some_iff] at htext
  obtain ⟨x, hx, htext⟩ := htext
  cases x with
  | text old =>
    cases htext
    exact hx
  | file upload => cases htext

/-! ### Texts that return -/

/-- A slot that is deleted and replaced then leaves no more slots active than before. -/
theorem Store.Sound.revived_length (h : s.Sound) {r : Row} (hr : r ∈ s.recent) {now : Int} {x : Payload}
    {actor : Actor} :
    ((s.deleted r.id).rewritten now r.retired x actor).recent.length ≤ s.recent.length := by
  have hmem : r.retired ∈ (s.deleted r.id).slots := by
    obtain ⟨hmem, hact⟩ := mem_recent.mp hr
    exact mem_changeRows.mpr ⟨r, hmem, if_pos (by simp [hact])⟩
  have hperm : ((s.deleted r.id).setRow r.id (refill now x)).activeRows.Perm
      (refill now x r.retired :: (s.deleted r.id).activeRows.filter fun t => t.id != r.id) :=
    h.deleted.activeRows_setRow hmem (refill_isActive _)
  have hlt : (s.recent.filter fun t => t.id != r.id).length < s.recent.length :=
    List.length_filter_lt_length_iff_exists.mpr ⟨r, hr, by simp⟩
  calc ((s.deleted r.id).rewritten now r.retired x actor).recent.length
      = ((s.deleted r.id).activeRows.filter fun t => t.id != r.id).length + 1 := by
        rw [recent_rewritten, recent_length]
        exact hperm.length_eq
    _ ≤ (s.deleted r.id).activeRows.length + 1 := Nat.succ_le_succ (List.length_filter_le _ _)
    _ = (s.recent.filter fun t => t.id != r.id).length + 1 := by rw [← recent_length, h.recent_deleted]
    _ ≤ s.recent.length := hlt

/-- An active slot with a saved text is deleted, and a restoration brings the text back. -/
theorem Store.Undoable.returns {r : Row} (h : s.Undoable c.size id content r) (hs : b.database = .ready s) :
    ∃ b₁ b₂, ((SlotCall.delete id).perform c).on b = (.ok none, b₁) ∧ ((getSlot id).on b₁).1 = .error .notFound ∧
      ((SlotCall.rewrite id .restore {}).perform c).on b₁ = (.ok none, b₂) ∧ b₂.Holds id (.text content) := by
  obtain ⟨hsaved, hrow⟩ := plan_eq_ok.mp h.plan
  obtain ⟨-, rfl⟩ := row?_eq_some hrow
  have hd : (s.deleted r.id).Sound := h.sound.deleted
  have hretired : (s.deleted r.id).row? r.id = some r.retired := by
    rw [deleted, row?_changeRows Row.retired_id, hrow]
    simp [(mem_recent.mp h.row).2]
  have hplan : Rewrite.restore.plan r.id (s.deleted r.id) = .ok (r.retired, .text content) :=
    plan_eq_ok.mpr ⟨hsaved, hretired⟩
  have hdelete : ((SlotCall.delete r.id).perform c).on b = (.ok none, b.storing (s.deleted r.id)) := by
    rw [on_deleteCall hs, if_pos (any_active_iff.mpr ⟨r, h.row, rfl⟩)]
  generalize hb₁ : b.storing (s.deleted r.id) = b₁ at hdelete
  have hready : b₁.database = .ready (s.deleted r.id) := hb₁ ▸ rfl
  have hrestore : ((SlotCall.rewrite r.id .restore {}).perform c).on b₁ = (.ok none,
      b₁.ticked.storing (((s.deleted r.id).rewritten b₁.now r.retired (.text content) {}).trimmed c.size)) := by
    rw [on_rewrite hready, hplan]
    rfl
  refine ⟨b₁, _, hdelete, ?_, hrestore, ?_⟩
  · rw [← hd.payload?_eq_none hready, payload?_deleted, if_pos rfl]
  · have hkept : (((s.deleted r.id).rewritten b₁.now r.retired (.text content) {}).trimmed c.size).slots =
        ((s.deleted r.id).rewritten b₁.now r.retired (.text content) {}).slots :=
      trimmed_slots ((h.sound.revived_length h.row).trans h.size)
    rw [(hd.rewritten.trimmed c.size).holds_iff rfl, Store.payload?, row?, hkept]
    exact (payload?_rewritten hretired).trans (if_pos rfl)

/-- A text is overwritten. -/
def overwritten : Board :=
  (fresh counting).after [(.of 2, .insert (.text "a")), (.of 2, .rewrite 1 (.update (.text "b")) {})]

theorem overwritten_returns : ∃ b₁ b₂, ((SlotCall.delete 1).perform (.of 2)).on overwritten = (.ok none, b₁) ∧
    ((getSlot 1).on b₁).1 = .error .notFound ∧
    ((SlotCall.rewrite 1 .restore {}).perform (.of 2)).on b₁ = (.ok none, b₂) ∧ b₂.Holds 1 (.text "a") := by
  obtain ⟨b₁, hok⟩ := oneText_replaced
  obtain ⟨t, r, x, ht, -, hundo, -⟩ := (oneText_reachable.sound oneText_ready).undoable oneText_ready (by decide)
    (fun e he => absurd he List.not_mem_nil) oneText_read hok
  have hb₁ : overwritten = b₁ := congrArg Prod.snd hok
  exact hundo.returns (hb₁ ▸ ht)

/-! ### Runs with a deletion -/

/-- In every run, with any capacities and any clock, once a slot was deleted and as long as it did not hold a text
since, a call that does not supply the text brings it to the slot in one case only: the call is a restoration that
succeeds and does not cut the slot off, the text is the one that is saved for the slot, and it was saved before the
deletion. -/
theorem deleted_text_returns_iff (h₀ : b₀.Vacant) (calls later : List (Capacity × SlotCall)) (c' : Capacity)
    (hdelete : ((SlotCall.delete id).perform c).on (b₀.after calls) = (.ok v, b₁))
    (hgone : ∀ earlier, earlier <+: later → ¬(b₁.after earlier).Holds id (.text content))
    (hsupply : ¬call.Supplies id content) :
    ((call.perform c').on (b₁.after later)).2.Holds id (.text content) ↔
      ((call.perform c').on (b₁.after later)).1 = .ok none ∧ (∃ actor, call = .rewrite id .restore actor) ∧
      ((getSlot id).on ((call.perform c').on (b₁.after later)).2).1 ≠ .error .notFound ∧
      (b₁.after later).store.snapshot? id = some content ∧
      ∃ e ∈ b₁.store.log, e.slotId = id ∧ e.contentBefore = some content := by
  obtain ⟨s₀, hs₀⟩ := h₀.holding
  obtain ⟨s, hs⟩ := hs₀.after calls
  obtain ⟨s₁, hs₁⟩ := hs.answered hdelete
  obtain ⟨s₂, hs₂⟩ := hs₁.after later
  obtain ⟨t, ht⟩ := hs₂.perform c' call
  rw [ht.sound.holds_iff ht.ready, Ne, ← ht.sound.payload?_eq_none ht.ready, store_eq hs₂.ready, store_eq hs₁.ready]
  constructor
  · intro hheld
    have hnot : s₂.payload? id ≠ some (.text content) := fun hx =>
      hgone later (List.prefix_refl later) ((hs₂.sound.holds_iff hs₂.ready).mpr hx)
    rcases same_or_performed hs₂.ready ht.ready with rfl | ⟨v, hok, hp⟩
    · exact absurd hheld hnot
    · obtain ⟨rfl, hsaved, hrestore⟩ := hp.restores ht.ready hnot hsupply hheld
      exact ⟨hok, hrestore, by rw [hheld]; exact nofun, hsaved,
        hs₁.saved_before hgone (by rw [store_eq hs₂.ready]; exact hsaved)⟩
  · rintro ⟨hok, ⟨actor, rfl⟩, hfound, hsaved, -⟩
    exact (hs₂.payload_cases (Prod.ext hok rfl) ht (by rw [Rewrite.payload?, hsaved]; rfl)).resolve_left hfound

/-- The text that returns is that of an entry from before the deletion. -/
theorem deleted_text_returns_iff_overwritten : ∃ b₁ b₂,
    ((SlotCall.delete 1).perform (.of 2)).on overwritten = (.ok none, b₁) ∧
    ((SlotCall.rewrite 1 .restore {}).perform (.of 2)).on b₁ = (.ok none, b₂) ∧ b₂.Holds 1 (.text "a") ∧
    ∃ e ∈ b₁.store.log, e.slotId = 1 ∧ e.contentBefore = some "a" := by
  obtain ⟨b₁, b₂, hdelete, hread, hrestore, hholds⟩ := overwritten_returns
  have hgone : ∀ earlier, earlier <+: [] → ¬(b₁.after earlier).Holds 1 (.text "a") := by
    intro earlier hearlier
    rw [List.prefix_nil.mp hearlier]
    exact not_holds_of_notFound hread
  have hsupply : ¬(SlotCall.rewrite 1 .restore {}).Supplies 1 "a" := by
    rintro ⟨-, hhow | hhow⟩ <;> cases hhow
  have hreturns := deleted_text_returns_iff (fresh_vacant counting) _ [] (.of 2) hdelete hgone hsupply
  rw [Board.after, hrestore] at hreturns
  exact ⟨b₁, b₂, hdelete, hrestore, hholds, (hreturns.mp hholds).2.2.2.2⟩

/-- A text is overwritten, its slot is deleted, and nothing but a restoration brings the text back. -/
theorem deleted_text_is_restored : ∃ b₁ b₂, (fresh counting).Vacant ∧ oneText.Holds 1 (.text "a") ∧
    ((SlotCall.rewrite 1 (.update (.text "b")) {}).perform (.of 2)).on oneText = (.ok none, overwritten) ∧
    ((SlotCall.delete 1).perform (.of 2)).on overwritten = (.ok none, b₁) ∧ ¬b₁.Holds 1 (.text "a") ∧
    ((SlotCall.rewrite 1 .restore {}).perform (.of 2)).on b₁ = (.ok none, b₂) ∧ b₂.Holds 1 (.text "a") := by
  obtain ⟨b₁, b₂, hdelete, hread, hrestore, hholds⟩ := overwritten_returns
  obtain ⟨b, hok⟩ := oneText_replaced
  have hb : b = overwritten := (congrArg Prod.snd hok).symm
  exact ⟨b₁, b₂, fresh_vacant counting, ⟨⟨_, oneText_read, rfl, rfl, rfl⟩, fun _ h => by cases h⟩, hb ▸ hok, hdelete,
    not_holds_of_notFound hread, hrestore, hholds⟩

end Pasteboard
