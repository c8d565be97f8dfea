import Pasteboard.Proofs.Log.Undo
/-!
Calls that fail.

A call that fails leaves rows, log and index as they were, also one that fails late: a replacement on behalf of a
key that is not stored has rewritten its row, and the entry of the row in the index, when its entry in the log is
refused. Questions leave everything as it was.
-/

namespace Pasteboard
open Board Store

/-- A question about slots. -/
inductive SlotQuestion
  | record (id : Int)
  | file (id : Int)
  | latest
  | page (limit : Nat) (f : Filter) (position : Position)
  | count (f : Filter)
  | countActive
  | search (fallback : Bool) (raw : String) (limit : Nat) (f : Filter) (position : Position)

namespace SlotQuestion

/-- What a question is answered with. -/
def Answer : SlotQuestion → Type
  | .record _ => Record
  | .file _ => Upload
  | .latest => Option Int
  | .page _ _ _ => List Record
  | .count _ => Nat
  | .countActive => Nat
  | .search _ _ _ _ _ => Found

/-- Asks a question. -/
def ask : (q : SlotQuestion) → Action q.Answer
  | .record id => getSlot id
  | .file id => getFile id
  | .latest => latestId
  | .page limit f position => Board.list limit f position
  | .count f => Board.count f
  | .countActive => Board.countActive
  | .search fallback raw limit f position => Board.search fallback raw limit f position

end SlotQuestion

variable {b : Board} {s : Store} {c : Capacity} {id : Int} {how : Rewrite} {actor : Actor} {before : Row} {x : Payload}

/-! ### Questions -/

theorem Board.ask_same {α : Type} (table : Table) (f : Store → Except StoreError α) (b : Board) :
    ((Board.ask table f).on b).2 = b := by
  by_cases hready : ∃ s, b.database = .ready s
  · obtain ⟨s, hs⟩ := hready
    rw [on_ask hs]
  · obtain ⟨e, he⟩ := on_ask_unready table f (not_exists.mp hready)
    rw [he]

theorem Board.search_same (fallback : Bool) (raw : String) (n : Nat) (f : Filter) (position : Position) (b : Board) :
    ((Board.search fallback raw n f position).on b).2 = b := by
  have hget : (get : Action Board).on b = (.ok b, b) := rfl
  rw [Board.search, Action.on_bind_of_ok hget]
  cases b.database with
  | unopenable place =>
    dsimp only
    cases Search.expression raw <;> rfl
  | blank =>
    dsimp only
    rw [Action.on_bind, Action.on_of]
    cases Store.search fallback raw n f position {} with
    | error e => rfl
    | ok found =>
      dsimp only
      by_cases hfile : f.isFile = some true
      · rw [if_pos hfile]
        rfl
      · rw [if_neg hfile]
        rfl
  | ready s => rfl

theorem SlotQuestion.same (q : SlotQuestion) (b : Board) : (q.ask.on b).2 = b := by
  cases q with
  | record | file | latest | page | count | countActive => exact ask_same _ _ b
  | search fallback raw n f position => exact search_same fallback raw n f position b

/-! ### Calls -/

/-- A replacement on behalf of a key that is not stored fails when its entry in the log is refused. -/
theorem refused_by_log (hs : b.database = .ready s) (hplan : how.plan id s = .ok (before, x))
    (hk : s.knows actor = false) :
    ∃ t, s.updateRows (·.id == before.id) (refill b.now x) = .ok t ∧ t.row? id = some (refill b.now x before) ∧
      t.appendLog b.now before x actor = .error (.database .foreignKey) ∧
      ((SlotCall.rewrite id how actor).perform c).on b = (.error (.database .foreignKey), b.ticked) := by
  obtain ⟨-, hrow⟩ := plan_eq_ok.mp hplan
  obtain ⟨-, hid⟩ := row?_eq_some hrow
  refine ⟨_, updateRows_eq refill_check, ?_, if_neg (Bool.not_eq_true _ ▸ hk), ?_⟩
  · show (s.setRow before.id (refill b.now x)).row? id = _
    rw [row?_setRow refill_id, if_pos hid.symm, hrow]
    rfl
  · rw [on_rewrite hs, hplan]
    dsimp only
    rw [hk]
    rfl

/-- In every state, a call that fails leaves all data as it was: rows, log and index. So it does if the call is a
replacement on behalf of a key that is not stored, which fails after its row was rewritten. -/
theorem failure_changes_nothing (b : Board) :
    (∀ (c : Capacity) (call : SlotCall) (e : StoreError), ((call.perform c).on b).1 = .error e →
      ((call.perform c).on b).2.database = b.database) ∧
    (∀ q : SlotQuestion, (q.ask.on b).2 = b) ∧
    ∀ (s : Store) (c : Capacity) (id : Int) (how : Rewrite) (actor : Actor) (before : Row) (x : Payload),
      b.database = .ready s → how.plan id s = .ok (before, x) → s.knows actor = false →
      ∃ t, s.updateRows (·.id == before.id) (refill b.now x) = .ok t ∧ t.row? id = some (refill b.now x before) ∧
        t.appendLog b.now before x actor = .error (.database .foreignKey) ∧
        ((SlotCall.rewrite id how actor).perform c).on b = (.error (.database .foreignKey), b.ticked) := by
  refine ⟨fun c call e he => ?_, fun q => q.same b,
    fun s c id how actor before x hs hplan hk => refused_by_log hs hplan hk⟩
  by_cases hready : ∃ s, b.database = .ready s
  · obtain ⟨s, hs⟩ := hready
    rcases perform_cases hs c call with ⟨e', he' | he'⟩ | ⟨v, b', hok, -⟩
    · rw [he']
    · rw [he']
      rfl
    · rw [hok] at he
      cases he
  · obtain ⟨e', b', he', hsame, -⟩ := perform_unready (not_exists.mp hready) c call
    rw [he']
    exact hsame

/-- A text is to be replaced on behalf of a key that is not stored: its row was rewritten, and still has the old text
when the replacement has failed. -/
theorem failure_changes_nothing_late : ∃ s t r, oneText.database = .ready s ∧ s.knows { keyId := some 99 } = false ∧
    s.updateRows (·.id == 1) (refill oneText.now (.text "b")) = .ok t ∧ t.row? 1 = some r ∧ r.content = some "b" ∧
    (((SlotCall.rewrite 1 (.update (.text "b")) { keyId := some 99 }).perform (.of 2)).on oneText).1 =
      .error (.database .foreignKey) ∧
    (((SlotCall.rewrite 1 (.update (.text "b")) { keyId := some 99 }).perform (.of 2)).on oneText).2.database =
      .ready s := by
  obtain ⟨hfailed, -, hlate⟩ := failure_changes_nothing oneText
  obtain ⟨t, hrow, hfound, -, hanswer⟩ :=
    hlate _ (.of 2) 1 (.update (.text "b")) { keyId := some 99 } _ _ oneText_ready rfl rfl
  have herror := congrArg Prod.fst hanswer
  exact ⟨_, t, _, oneText_ready, rfl, hrow, hfound, rfl, herror, (hfailed _ _ _ herror).trans oneText_ready⟩

end Pasteboard
