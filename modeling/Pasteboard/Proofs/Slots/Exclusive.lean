import Pasteboard.Proofs.Board.Reachable
/-!
What the rows of slots hold.

A row has one payload or none: it is inactive and empty, an active text, or an active file. The constraint on rows
says so, every statement of every operation writes rows that satisfy it, and so none is ever refused.
-/

namespace Pasteboard
open Board Store

variable {b : Board} {s : Store} {c : Capacity} {call : SlotCall}

/-! ### Statements that are refused -/

/-- A call does not fail because a row breaks the constraint. -/
theorem perform_ne_rowCheck (hs : b.database = .ready s) (c : Capacity) (call : SlotCall) :
    ((call.perform c).on b).1 ≠ .error (.database .rowCheck) := by
  cases call with
  | insert x =>
    rw [on_insert hs]
    exact nofun
  | rewrite id how actor =>
    rw [on_rewrite hs, plan_eq]
    cases how.payload? (s.payload? id) (s.snapshot? id) with
    | none => exact nofun
    | some x => cases s.row? id with
      | none => exact nofun
      | some before =>
        dsimp only
        by_cases hk : s.knows actor = true
        · rw [if_pos hk]
          exact nofun
        · rw [if_neg hk]
          exact nofun
  | delete id =>
    rw [on_deleteCall hs]
    by_cases hd : s.slots.any (fun r => r.id == id && r.isActive) = true
    · rw [if_pos hd]
      exact nofun
    · rw [if_neg hd]
      exact nofun

/-- In every reachable state, whatever payloads were written, with any capacities and any clock, every row has a time
of creation and is inactive with all payload columns empty, an active text with its text alone, or an active file
with its data, name and media type alone; and no call is ever answered that a row breaks the constraint, with which
the first refused statement of a call would end it. -/
theorem rows_hold_one_payload (h : b.Reachable) :
    (∀ r ∈ b.store.slots, (∃ time, r.createdAt = some time) ∧
      ((r.isActive = false ∧ r.content = none ∧ r.filename = none ∧ r.mime = none ∧ r.blob = none) ∨
        (∃ content, r.isActive = true ∧ r.isFile = false ∧
          r.content = some content ∧ r.filename = none ∧ r.mime = none ∧ r.blob = none) ∨
        ∃ filename mime data, r.isActive = true ∧ r.isFile = true ∧
          r.content = none ∧ r.filename = some filename ∧ r.mime = some mime ∧ r.blob = some data)) ∧
    ∀ (c : Capacity) (call : SlotCall), ((call.perform c).on b).1 ≠ .error (.database .rowCheck) := by
  by_cases hready : ∃ s, b.database = .ready s
  · obtain ⟨s, hs⟩ := hready
    refine ⟨fun r hr => ?_, perform_ne_rowCheck hs⟩
    obtain ⟨time, -, htime⟩ := h.created r hr
    rw [store_eq hs] at hr
    exact ⟨⟨time, htime⟩, Row.check_cases ((h.sound hs).check r hr)⟩
  · have hnone := not_exists.mp hready
    refine ⟨fun r hr => ?_, fun c call hrefused => ?_⟩
    · rw [store_unready hnone] at hr
      cases hr
    · obtain ⟨e, b', he, -, hne⟩ := perform_unready hnone c call
      rw [he] at hrefused
      exact hne (Except.error.inj hrefused)

/-- An empty text, an empty file, and a slot that was deleted. -/
def emptyPayloads : Board := (fresh counting).after [(.of 3, .insert (.text "")),
  (.of 3, .insert (.file ⟨"", "", ByteArray.empty⟩)), (.of 3, .insert (.text "a")), (.of 3, .delete 3)]

theorem emptyPayloads_ready : ∃ index, emptyPayloads.database = .ready { slots := [fill 1000 (.text "") (.fresh 1),
    fill 1001 (.file ⟨"", "", ByteArray.empty⟩) (.fresh 2), (fill 1002 (.text "a") (.fresh 3)).retired], index } := by
  refine ⟨some { entries := [⟨1, some ""⟩], faults := 0 }, ?_⟩
  cbv

/-- Empty payloads are payloads: the rows are a text, a file and none. -/
theorem rows_hold_one_payload_when_empty : emptyPayloads.Reachable ∧ ∃ text file gone,
    emptyPayloads.store.slots = [text, file, gone] ∧ text.content = some "" ∧ file.blob = some ByteArray.empty ∧
    (text.blob = none ∧ file.content = none ∧ gone.content = none) ∧
    (((SlotCall.rewrite 3 (.update (.text "")) {}).perform (.of 1)).on emptyPayloads).1 ≠
      .error (.database .rowCheck) := by
  have hreachable : emptyPayloads.Reachable := (fresh_reachable counting).after _
  obtain ⟨hrows, hcheck⟩ := rows_hold_one_payload hreachable
  obtain ⟨index, hs⟩ := emptyPayloads_ready
  rw [store_eq hs] at hrows ⊢
  refine ⟨hreachable, _, _, _, rfl, rfl, rfl, ⟨?_, ?_, rfl⟩, hcheck _ _⟩
  · rcases (hrows _ List.mem_cons_self).2 with ⟨hact, -⟩ | ⟨_, -, -, -, -, -, hblob⟩ | ⟨_, _, _, -, hfile, -⟩
    · cases hact
    · exact hblob
    · cases hfile
  · rcases (hrows _ (List.mem_cons_of_mem _ List.mem_cons_self)).2 with ⟨hact, -⟩ | ⟨_, -, hfile, -⟩ |
        ⟨_, _, _, -, -, hcontent, -⟩
    · cases hact
    · cases hfile
    · exact hcontent

end Pasteboard
