import Pasteboard.Proofs.Board.Reachable
import Pasteboard.Proofs.Slots.Freed
import Pasteboard.Proofs.Slots.Payloads
/-!
Patches are full replacements.

A patch of an active slot of its kind does what a full replacement does, by the payload that is there with the fields of
the patch put over it. It is refused for every other slot, before the clock is read. So where nothing is surplus, two
patches of a file come to one patch with the fields of both.
-/

namespace Pasteboard
open Board Store

/-- A file with the fields of a patch put over its own. -/
def Store.FilePatch.over (patch : FilePatch) (upload : Upload) : Upload :=
  ⟨patch.filename.getD upload.filename, patch.mime.getD upload.mime, patch.data.getD upload.data⟩

/-- The fields of two patches; where both have a field it is that of the later one. -/
def Store.FilePatch.followedBy (first second : FilePatch) : FilePatch :=
  ⟨second.filename.or first.filename, second.mime.or first.mime, second.data.or first.data⟩

theorem Store.FilePatch.over_followedBy (first second : FilePatch) (upload : Upload) :
    (first.followedBy second).over upload = second.over (first.over upload) := by
  simp only [FilePatch.over, FilePatch.followedBy, Option.getD_or]

variable {b : Board} {s : Store} {c : Capacity} {id : Int} {how : Rewrite} {actor : Actor} {x old : Payload} {n : Nat}
  {upload : Upload} {patch : FilePatch} {content : Option String} {current : String}

/-! ### Replacements by the payload that they write -/

/-- A replacement that has a payload to write is the full replacement by this payload. -/
theorem Rewrite.perform_eq_update (hs : b.database = .ready s)
    (h : how.payload? (s.payload? id) (s.snapshot? id) = some x) :
    (how.perform c id actor).on b = (Board.update c id x actor).on b := by
  obtain ⟨table, hperform⟩ := perform_eq c id actor how
  have hplan : how.plan id s = s.toReplace id x := by
    rw [plan_eq, h]
    rfl
  rw [hperform, Board.update, on_replace hs, on_replace hs, hplan]

/-- A replacement that has no payload to write takes no reading of the clock. -/
theorem Rewrite.perform_refused (hs : b.database = .ready s)
    (h : how.payload? (s.payload? id) (s.snapshot? id) = none) :
    (how.perform c id actor).on b = (.error (.conflict (how.conflict id)), b) := by
  obtain ⟨table, hperform⟩ := perform_eq c id actor how
  rw [hperform, on_replace hs, plan_eq, h]

theorem patchText_eq_update (hs : b.database = .ready s) (h : s.payload? id = some (.text current)) :
    (Board.patchText c id content actor).on b = (Board.update c id (.text (content.getD current)) actor).on b := by
  have hwritten : (Rewrite.patchText content).payload? (s.payload? id) (s.snapshot? id) =
      some (.text (content.getD current)) := by
    rw [h]
    rfl
  exact Rewrite.perform_eq_update hs hwritten

theorem patchFile_eq_update (hs : b.database = .ready s) (h : s.payload? id = some (.file upload)) :
    (Board.patchFile c id patch actor).on b = (Board.update c id (.file (patch.over upload)) actor).on b := by
  have hwritten : (Rewrite.patchFile patch).payload? (s.payload? id) (s.snapshot? id) =
      some (.file (patch.over upload)) := by
    rw [h]
    rfl
  exact Rewrite.perform_eq_update hs hwritten

theorem patchText_refused (hs : b.database = .ready s) (h : ∀ current, s.payload? id ≠ some (.text current)) :
    (Board.patchText c id content actor).on b = (.error (.conflict (.otherKind id)), b) := by
  have hnone : (Rewrite.patchText content).payload? (s.payload? id) (s.snapshot? id) = none := by
    rcases hx : s.payload? id with _ | current | upload
    · rfl
    · exact absurd hx (h current)
    · rfl
  exact Rewrite.perform_refused hs hnone

theorem patchFile_refused (hs : b.database = .ready s) (h : ∀ upload, s.payload? id ≠ some (.file upload)) :
    (Board.patchFile c id patch actor).on b = (.error (.conflict (.otherKind id)), b) := by
  have hnone : (Rewrite.patchFile patch).payload? (s.payload? id) (s.snapshot? id) = none := by
    rcases hx : s.payload? id with _ | current | upload
    · rfl
    · rfl
    · exact absurd hx (h upload)
  exact Rewrite.perform_refused hs hnone

/-! ### Replacements where nothing is surplus -/

/-- A slot holds a payload, and no more than `n` slots are active. -/
structure Board.Retains (n : Nat) (id : Int) (x : Payload) (b : Board) (s : Store) : Prop where
  ready : b.database = .ready s
  sound : s.Sound
  size : s.recent.length ≤ n
  payload : s.payload? id = some x

theorem Board.Retains.holds (h : Retains n id x b s) : b.Holds id x :=
  (h.sound.holds_iff h.ready).mpr h.payload

/-- A slot that is replaced holds the new payload if the log takes the entry, and otherwise the old one. -/
theorem Board.Retains.update (h : Retains c.size id old b s) (x : Payload) (actor : Actor) :
    ∃ t, Retains c.size id (if s.knows actor then x else old) ((Board.update c id x actor).on b).2 t ∧
      t.keys = s.keys := by
  obtain ⟨before, hb, rfl, -⟩ := h.sound.payload?_eq_some.mp h.payload
  have hrow : s.row? before.id = some before := h.sound.row?_of_mem (mem_recent.mp hb).1
  have hplan : s.toReplace before.id x = .ok (before, x) := by rw [toReplace, hrow]
  rw [Board.update, on_replace h.ready, hplan]
  dsimp only
  rw [replaceRow_eq]
  cases hk : s.knows actor with
  | false => exact ⟨s, ⟨h.ready, h.sound, h.size, h.payload⟩, rfl⟩
  | true =>
    have hsound : ((s.rewritten b.now before x actor).trimmed c.size).Sound := h.sound.rewritten.trimmed c.size
    have hkept : refill b.now x before ∈ ((s.rewritten b.now before x actor).trimmed c.size).recent :=
      h.sound.replaced_mem hb h.size
    exact ⟨_, ⟨rfl, hsound, h.sound.rewritten.trimmed_length,
      hsound.payload?_eq_some.mpr ⟨_, hkept, refill_id before, refill_payload before⟩⟩, rfl⟩

/-- A file that is patched keeps the fields that the patch leaves out. -/
theorem Board.Retains.patchFile (h : Retains c.size id (.file upload) b s) (patch : FilePatch) (actor : Actor) :
    ∃ t, Retains c.size id (.file (if s.knows actor then patch.over upload else upload))
      ((Board.patchFile c id patch actor).on b).2 t ∧ t.keys = s.keys := by
  rw [patchFile_eq_update h.ready h.payload, apply_ite Payload.file]
  exact h.update _ actor

/-! ### Patches -/

/-- In every reachable state a patch of an active text does what a full replacement by the given text does, or by the
present text if none is given. A patch of an active file does what a full replacement by the file with the given fields
does. While no more slots are active than the capacity says, two patches of a file in a row, on behalf of keys of which
all or none are stored, leave the payload that one patch with the fields of both leaves. For a slot that is not an
active slot of its kind a patch fails with a conflict, and the board is what it was, with the clock. -/
theorem patches_are_replacements (h : b.Reachable) (hs : b.database = .ready s) (c : Capacity) (id : Int) :
    (∀ current, b.Holds id (.text current) → ∀ content actor,
      (patchText c id content actor).on b = (update c id (.text (content.getD current)) actor).on b) ∧
    (∀ upload, b.Holds id (.file upload) → ∀ patch actor,
      (patchFile c id patch actor).on b = (update c id (.file (patch.over upload)) actor).on b) ∧
    (∀ upload, b.Holds id (.file upload) → s.countActive ≤ c.size → ∀ first second one two both,
      s.knows one = s.knows both → s.knows two = s.knows both →
      ∃ x, x = Payload.file (if s.knows both then (first.followedBy second).over upload else upload) ∧
        ((patchFile c id second two).on ((patchFile c id first one).on b).2).2.Holds id x ∧
        ((patchFile c id (first.followedBy second) both).on b).2.Holds id x) ∧
    ((∀ current, ¬b.Holds id (.text current)) → ∀ content actor,
      (patchText c id content actor).on b = (.error (.conflict (.otherKind id)), b)) ∧
    ((∀ upload, ¬b.Holds id (.file upload)) → ∀ patch actor,
      (patchFile c id patch actor).on b = (.error (.conflict (.otherKind id)), b)) := by
  have hsound := h.sound hs
  simp only [hsound.holds_iff hs]
  refine ⟨fun current hx content actor => patchText_eq_update hs hx,
    fun upload hx patch actor => patchFile_eq_update hs hx, ?_,
    fun hx content actor => patchText_refused hs hx, fun hx patch actor => patchFile_refused hs hx⟩
  intro upload hx hcount first second one two both hone htwo
  rw [countActive_eq] at hcount
  have hretains : Retains c.size id (.file upload) b s := ⟨hs, hsound, hcount, hx⟩
  obtain ⟨t, hfirst, hkeys⟩ := hretains.patchFile first one
  obtain ⟨u, hsecond, -⟩ := hfirst.patchFile second two
  obtain ⟨v, hboth, -⟩ := hretains.patchFile (first.followedBy second) both
  have hknows : t.knows two = s.knows both := by rw [Store.knows, hkeys, ← Store.knows, htwo]
  refine ⟨_, rfl, ?_, hboth.holds⟩
  have hholds := hsecond.holds
  rw [hone, hknows] at hholds
  cases hk : s.knows both with
  | false => rwa [hk] at hholds
  | true =>
    rw [hk] at hholds
    rwa [if_pos rfl, FilePatch.over_followedBy]

/-- A file and a text. -/
def fileAndText : Board := (fresh counting).after
  [(.of 2, .insert (.file ⟨"a", "text/plain", ByteArray.empty⟩)), (.of 2, .insert (.text "b"))]

theorem fileAndText_ready : fileAndText.database = .ready {
    slots := [fill 1000 (.file ⟨"a", "text/plain", ByteArray.empty⟩) (.fresh 1), fill 1001 (.text "b") (.fresh 2)]
    index := some { entries := [⟨2, some "b"⟩], faults := 0 } } := by
  cbv

/-- The name of the file is patched and then its media type; a patch of a text is refused for it. -/
theorem patches_are_replacements_of_two : fileAndText.Reachable ∧
    (patchText (.of 2) 2 none {}).on fileAndText = (update (.of 2) 2 (.text "b") {}).on fileAndText ∧
    (patchFile (.of 2) 1 { filename := some "c" } {}).on fileAndText =
      (update (.of 2) 1 (.file ⟨"c", "text/plain", ByteArray.empty⟩) {}).on fileAndText ∧
    ((patchFile (.of 2) 1 { mime := some "image/png" } {}).on
      ((patchFile (.of 2) 1 { filename := some "c" } {}).on fileAndText).2).2.Holds 1
        (.file ⟨"c", "image/png", ByteArray.empty⟩) ∧
    (patchText (.of 2) 1 (some "x") {}).on fileAndText = (.error (.conflict (.otherKind 1)), fileAndText) := by
  have hreachable : fileAndText.Reachable := (fresh_reachable counting).after _
  have hs := fileAndText_ready
  have hsound := hreachable.sound hs
  have hfile : fileAndText.Holds 1 (.file ⟨"a", "text/plain", ByteArray.empty⟩) := (hsound.holds_iff hs).mpr rfl
  have htext : fileAndText.Holds 2 (.text "b") := (hsound.holds_iff hs).mpr rfl
  obtain ⟨-, hreplaced, htwice, hrefused, -⟩ := patches_are_replacements hreachable hs (.of 2) 1
  obtain ⟨x, rfl, htwice, -⟩ := htwice _ hfile (by decide) { filename := some "c" } { mime := some "image/png" }
    {} {} {} rfl rfl
  refine ⟨hreachable, (patches_are_replacements hreachable hs (.of 2) 2).1 _ htext none {}, hreplaced _ hfile _ {},
    htwice, hrefused (fun current htext => ?_) _ {}⟩
  cases (hsound.holds_iff hs).mp htext

end Pasteboard
