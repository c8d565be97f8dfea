import Pasteboard.Proofs.Board.Action
import Pasteboard.Proofs.Slots.Rows
/-!
Runs of calls that change slots.

A run is a list of calls, each made with the capacity of its own. A call either fails and leaves the
data as it was, or makes the one change of its kind. What every run keeps follows from what a call
keeps: the data stays sound, and its times are readings of the clock that were taken in the run.
-/

namespace Pasteboard

/-- How the payload of a slot is replaced. -/
inductive Rewrite
  | update (x : Payload)
  | patchText (content : Option String)
  | patchFile (patch : Store.FilePatch)
  | restore

/-- A call that changes slots. -/
inductive SlotCall
  | insert (x : Payload)
  | rewrite (id : Int) (how : Rewrite) (actor : Actor)
  | delete (id : Int)

/-- The row that a replacement acts on, and the payload that it writes. -/
def Rewrite.plan (id : Int) : Rewrite → Store → Except StoreError Store.Replacement
  | .update x => Store.toReplace id x
  | .patchText content => Store.toPatchText id content
  | .patchFile patch => Store.toPatchFile id patch
  | .restore => Store.toRestore id

/-- The payload that a replacement writes where `present` is listed and `saved` is the text overwritten last:
the payload it was given, the present one with other fields, or the saved text. -/
def Rewrite.payload? (present : Option Payload) (saved : Option String) : Rewrite → Option Payload
  | .update x => some x
  | .patchText content => match present with
    | some (.text old) => some (.text (content.getD old))
    | _ => none
  | .patchFile patch => match present with
    | some (.file old) => some (.file ⟨patch.filename.getD old.filename, patch.mime.getD old.mime,
        patch.data.getD old.data⟩)
    | _ => none
  | .restore => saved.map .text

/-- The clash of a replacement that has no payload to write. -/
def Rewrite.conflict (id : Int) : Rewrite → Conflict
  | .restore => .noSnapshot id
  | _ => .otherKind id

/-- The payload of an active slot. -/
def Store.payload? (id : Int) (s : Store) : Option Payload :=
  (s.row? id).bind fun r => if r.isActive then some r.payload else none

/-- Replaces the payload of a slot. -/
def Rewrite.perform (c : Capacity) (id : Int) (actor : Actor) : Rewrite → Action Unit
  | .update x => Board.update c id x actor
  | .patchText content => Board.patchText c id content actor
  | .patchFile patch => Board.patchFile c id patch actor
  | .restore => Board.restore c id actor

/-- Makes a call; only a new slot has an id to answer with. -/
def SlotCall.perform (c : Capacity) : SlotCall → Action (Option Int)
  | .insert x => do return some (← Board.allocate c x)
  | .rewrite id how actor => do
    how.perform c id actor
    return none
  | .delete id => do
    Board.delete id
    return none

namespace Board

/-- The board after calls, each made with a capacity of its own. -/
def after (b : Board) : List (Capacity × SlotCall) → Board
  | [] => b
  | (c, call) :: calls => ((call.perform c).on b).2.after calls

theorem after_append (b : Board) (calls later : List (Capacity × SlotCall)) :
    b.after (calls ++ later) = (b.after calls).after later := by
  induction calls generalizing b with
  | nil => rfl
  | cons call calls ih => exact ih _

/-- Calls that are all made with one capacity. -/
def withCapacity (c : Capacity) (calls : List SlotCall) : List (Capacity × SlotCall) :=
  calls.map fun call => (c, call)

/-- All tables are there, but no slot was ever filled. -/
def Vacant (b : Board) : Prop := ∃ s, b.database = .ready s ∧ s.slots = [] ∧ s.log = []

/-- The board on which tables were just made. -/
def fresh (clock : Supply Int) : Board := ((createTables true).on ⟨.blank, clock, ⟨fun _ => "", 0⟩⟩).2

theorem fresh_vacant (clock : Supply Int) : (fresh clock).Vacant := ⟨_, rfl, rfl, rfl⟩

/-- A clock that moves by one with each reading. -/
def counting : Supply Int := ⟨fun n => 1000 + n, 0⟩

theorem counting_strictMono : StrictMono (fresh counting).clock.item := fun i j h => by
  show (1000 : Int) + i < 1000 + j
  omega

end Board

open Board Store

variable {b : Board} {s : Store} {c : Capacity} {id : Int} {how : Rewrite} {actor : Actor} {x : Payload} {before : Row}

/-! ### One call -/

/-- A replacement needs a payload to write and a row to write it to. -/
theorem plan_eq : how.plan id s = match how.payload? (s.payload? id) (s.snapshot? id) with
    | none => .error (.conflict (how.conflict id))
    | some x => match s.row? id with
      | some r => .ok (r, x)
      | none => .error .notFound := by
  cases how with
  | update x => rfl
  | patchText content =>
    rw [Rewrite.plan, toPatchText, Store.payload?]
    cases s.row? id with
    | none => rfl
    | some r =>
      cases hact : r.isActive <;> cases hfile : r.isFile <;>
        simp [Row.isActiveText, Row.payload, Rewrite.payload?, Rewrite.conflict, hact, hfile]
  | patchFile patch =>
    rw [Rewrite.plan, toPatchFile, Store.payload?]
    cases s.row? id with
    | none => rfl
    | some r =>
      have honto : patch.onto r = ⟨patch.filename.getD (r.filename.getD ""), patch.mime.getD (r.mime.getD ""),
          patch.data.getD (r.blob.getD ByteArray.empty)⟩ := by
        unfold FilePatch.onto
        cases patch.filename <;> cases patch.mime <;> cases patch.data <;> rfl
      cases hact : r.isActive <;> cases hfile : r.isFile <;>
        simp [Row.isActiveFile, Row.payload, Rewrite.payload?, Rewrite.conflict, hact, hfile, honto]
  | restore =>
    rw [Rewrite.plan, toRestore]
    cases s.snapshot? id <;> rfl

theorem plan_eq_ok : how.plan id s = .ok (before, x) ↔
    how.payload? (s.payload? id) (s.snapshot? id) = some x ∧ s.row? id = some before := by
  rw [plan_eq]
  cases how.payload? (s.payload? id) (s.snapshot? id) <;> cases s.row? id <;> simp [and_comm]

theorem on_insert (h : b.database = .ready s) : ((SlotCall.insert x).perform c).on b =
    (.ok (some (s.claim c).1), b.ticked.storing ((s.filled c b.now x).trimmed c.size)) := by
  rw [SlotCall.perform, Action.on_bind, on_allocate h, allocate_eq]
  rfl

/-- Every replacement is carried out in the same way. -/
theorem perform_eq (c : Capacity) (id : Int) (actor : Actor) (how : Rewrite) :
    ∃ table, how.perform c id actor = Board.replace c table (how.plan id) actor := by
  cases how <;> exact ⟨_, rfl⟩

theorem on_rewrite (h : b.database = .ready s) : ((SlotCall.rewrite id how actor).perform c).on b =
    match how.plan id s with
    | .error e => (.error e, b)
    | .ok (before, x) =>
      if s.knows actor then (.ok none, b.ticked.storing ((s.rewritten b.now before x actor).trimmed c.size))
      else (.error (.database .foreignKey), b.ticked) := by
  obtain ⟨table, hperform⟩ := perform_eq c id actor how
  rw [SlotCall.perform, Action.on_bind, hperform, on_replace h]
  rcases how.plan id s with e | ⟨before, p⟩
  · rfl
  · dsimp only
    rw [replaceRow_eq]
    by_cases hk : s.knows actor = true <;> simp [hk]

theorem on_deleteCall (h : b.database = .ready s) : ((SlotCall.delete id).perform c).on b =
    if s.slots.any (fun r => r.id == id && r.isActive) then (.ok none, b.storing (s.deleted id))
    else (.error .notFound, b) := by
  rw [SlotCall.perform, Action.on_bind, on_delete h, delete_eq]
  by_cases hd : s.slots.any (fun r => r.id == id && r.isActive) = true <;> simp [hd]

/-- What a call does that succeeds, by its kind. -/
inductive Performed (c : Capacity) (b : Board) (s : Store) : SlotCall → Option Int → Board → Prop
  | insert {x : Payload} :
    Performed c b s (.insert x) (some (s.claim c).1) (b.ticked.storing ((s.filled c b.now x).trimmed c.size))
  | rewrite {id : Int} {how : Rewrite} {actor : Actor} {before : Row} {x : Payload}
      (plan : how.plan id s = .ok (before, x)) (known : s.knows actor = true) :
    Performed c b s (.rewrite id how actor) none
      (b.ticked.storing ((s.rewritten b.now before x actor).trimmed c.size))
  | delete {id : Int} (active : s.slots.any (fun r => r.id == id && r.isActive) = true) :
    Performed c b s (.delete id) none (b.storing (s.deleted id))

theorem Performed.ready {call : SlotCall} {v : Option Int} {b' : Board} (hp : Performed c b s call v b') :
    ∃ t, b'.database = .ready t := by
  cases hp <;> exact ⟨_, rfl⟩

/-- A call fails and leaves the data alone, or makes the change of its kind. -/
theorem perform_cases (h : b.database = .ready s) (c : Capacity) (call : SlotCall) :
    (∃ e, (call.perform c).on b = (.error e, b) ∨ (call.perform c).on b = (.error e, b.ticked)) ∨
      ∃ v b', (call.perform c).on b = (.ok v, b') ∧ Performed c b s call v b' := by
  cases call with
  | insert x => exact Or.inr ⟨_, _, on_insert h, .insert⟩
  | rewrite id how actor =>
    rw [on_rewrite h]
    cases hplan : how.plan id s with
    | error e => exact Or.inl ⟨e, Or.inl rfl⟩
    | ok target =>
      obtain ⟨before, x⟩ := target
      by_cases hk : s.knows actor = true
      · exact Or.inr ⟨_, _, if_pos hk, .rewrite hplan hk⟩
      · exact Or.inl ⟨_, Or.inr (if_neg hk)⟩
  | delete id =>
    rw [on_deleteCall h]
    by_cases hd : s.slots.any (fun r => r.id == id && r.isActive) = true
    · exact Or.inr ⟨_, _, if_pos hd, .delete hd⟩
    · exact Or.inl ⟨_, Or.inl (if_neg hd)⟩

theorem performed_of_ok {call : SlotCall} {v : Option Int} {b' : Board} (h : b.database = .ready s)
    (hok : (call.perform c).on b = (.ok v, b')) : Performed c b s call v b' := by
  rcases perform_cases h c call with ⟨e, he | he⟩ | ⟨v, b', he, hp⟩ <;> cases he.symm.trans hok
  exact hp

/-- Without tables a call fails and changes no data, and it has no row to break the constraint with. -/
theorem perform_unready (h : ∀ s, b.database ≠ .ready s) (c : Capacity) (call : SlotCall) :
    ∃ e b', (call.perform c).on b = (.error e, b') ∧ b'.database = b.database ∧ e ≠ .database .rowCheck := by
  obtain ⟨_ | _ | s, _, _⟩ := b
  · cases call with
    | insert | delete => exact ⟨_, _, rfl, rfl, nofun⟩
    | rewrite id how => cases how <;> exact ⟨_, _, rfl, rfl, nofun⟩
  · cases call with
    | insert | delete => exact ⟨_, _, rfl, rfl, nofun⟩
    | rewrite id how => cases how <;> exact ⟨_, _, rfl, rfl, nofun⟩
  · exact absurd rfl (h s)

/-- After a call the data is as it was, unless the call succeeded and made the change of its kind. -/
theorem same_or_performed {call : SlotCall} {t : Store} (h : b.database = .ready s)
    (ht : ((call.perform c).on b).2.database = .ready t) :
    t = s ∨ ∃ v, ((call.perform c).on b).1 = .ok v ∧ Performed c b s call v ((call.perform c).on b).2 := by
  rcases perform_cases h c call with ⟨e, he | he⟩ | ⟨v, b', he, hp⟩ <;> rw [he] at ht ⊢
  · exact Or.inl (Database.ready.inj (ht.symm.trans h))
  · exact Or.inl (Database.ready.inj (ht.symm.trans h))
  · exact Or.inr ⟨v, rfl, hp⟩

theorem ready_before {call : SlotCall} {t : Store} (ht : ((call.perform c).on b).2.database = .ready t) :
    ∃ s, b.database = .ready s := by
  by_contra hnone
  obtain ⟨e, b', he, hsame, -⟩ := perform_unready (not_exists.mp hnone) c call
  rw [he] at ht
  exact hnone ⟨t, hsame ▸ ht⟩

theorem Performed.sound {call : SlotCall} {v : Option Int} {b' : Board} {t : Store} (hp : Performed c b s call v b')
    (hs : s.Sound) (ht : b'.database = .ready t) : t.Sound := by
  cases hp <;> cases ht
  case insert => exact hs.filled.trimmed _
  case rewrite => exact hs.rewritten.trimmed _
  case delete => exact hs.deleted

/-- A call creates nothing at another time than that of its reading. -/
theorem Performed.createdIn {T : Set Int} {call : SlotCall} {v : Option Int} {b' : Board} {t : Store}
    (hp : Performed c b s call v b') (ht : b'.database = .ready t) (hs : s.CreatedIn T) (hnow : b.now ∈ T) :
    t.CreatedIn T := by
  cases hp <;> cases ht
  case insert => exact (hs.filled hnow).retire
  case rewrite => exact (hs.rewritten hnow).retire
  case delete => exact hs.retire

/-! ### Runs -/

namespace Board
variable {first : Nat}

/-- The readings of the clock that were taken, from reading number `first` on. -/
def readings (b : Board) (first : Nat) : Set Int := b.clock.item '' Set.Ico first b.clock.used

/-- A board holds sound data, and its times are readings that were taken from reading number `first` on. -/
structure Holding (first : Nat) (b : Board) (s : Store) : Prop where
  ready : b.database = .ready s
  sound : s.Sound
  begun : first ≤ b.clock.used
  times : s.TimesIn (b.readings first)

theorem Vacant.holding (h : b.Vacant) : ∃ s, Holding b.clock.used b s := by
  obtain ⟨s, hs, hslots, hlog⟩ := h
  refine ⟨s, hs, ⟨by rw [hslots]; rfl, ?_⟩, Nat.le_refl _, ?_, ?_⟩
  all_goals simp [hslots, hlog]

theorem readings_ticked (h : first ≤ b.clock.used) : b.ticked.readings first = insert b.now (b.readings first) := by
  rw [readings, ticked_used, ticked_item, ← Set.insert_Ico_right_eq_Ico_add_one h, Set.image_insert_eq]
  rfl

theorem Holding.tick (h : Holding first b s) : Holding first b.ticked s where
  ready := h.ready
  sound := h.sound
  begun := Nat.le_succ_of_le h.begun
  times := h.times.mono (by rw [readings_ticked h.begun]; exact Set.subset_insert _ _)

/-- Storing what was made of the data with one more reading of the clock. -/
theorem Holding.stored (h : Holding first b s) {t : Store} (hs : t.Sound)
    (ht : t.TimesIn (insert b.now (b.readings first))) : Holding first (b.ticked.storing t) t where
  ready := rfl
  sound := hs
  begun := Nat.le_succ_of_le h.begun
  times := by
    rw [← readings_ticked h.begun] at ht
    exact ht

theorem Holding.performed (h : Holding first b s) {call : SlotCall} {v : Option Int} {b' : Board}
    (hp : Performed c b s call v b') : ∃ t, Holding first b' t := by
  cases hp with
  | insert => exact ⟨_, h.stored (h.sound.filled.trimmed _) h.times.filled.retire⟩
  | rewrite => exact ⟨_, h.stored (h.sound.rewritten.trimmed _) h.times.rewritten.retire⟩
  | delete => exact ⟨_, rfl, h.sound.deleted, h.begun, h.times.retire⟩

theorem Holding.perform (h : Holding first b s) (c : Capacity) (call : SlotCall) :
    ∃ t, Holding first ((call.perform c).on b).2 t := by
  rcases perform_cases h.ready c call with ⟨e, he | he⟩ | ⟨v, b', he, hp⟩ <;> rw [he]
  · exact ⟨s, h⟩
  · exact ⟨s, h.tick⟩
  · exact h.performed hp

theorem Holding.answered (h : Holding first b s) {call : SlotCall} {answer : Except StoreError (Option Int)}
    {b' : Board} (hb : (call.perform c).on b = (answer, b')) : ∃ t, Holding first b' t := by
  have hperform := h.perform c call
  rwa [hb] at hperform

theorem Holding.after (h : Holding first b s) (calls : List (Capacity × SlotCall)) :
    ∃ t, Holding first (b.after calls) t := by
  induction calls generalizing b s with
  | nil => exact ⟨s, h⟩
  | cons call calls ih =>
    obtain ⟨t, ht⟩ := h.perform call.1 call.2
    exact ih ht

/-! ### The clock in a run -/

/-- A clock that never repeats itself is later than all readings that were taken. -/
theorem readings_lt_now (h : StrictMonoOn b.clock.item (Set.Ico first (b.clock.used + 1))) :
    ∀ t ∈ b.readings first, t < b.now := by
  rintro t ⟨i, ⟨hfirst, hi⟩, rfl⟩
  exact h ⟨hfirst, by omega⟩ ⟨by omega, by omega⟩ hi

/-- A clock that never goes back is at least as late as all readings that were taken. -/
theorem readings_le_now (h : MonotoneOn b.clock.item (Set.Ico first (b.clock.used + 1))) :
    ∀ t ∈ b.readings first, t ≤ b.now := by
  rintro t ⟨i, ⟨hfirst, hi⟩, rfl⟩
  exact h ⟨hfirst, by omega⟩ ⟨by omega, by omega⟩ hi.le

/-- A call takes at most one reading of the clock. -/
theorem perform_clock (h : b.database = .ready s) (c : Capacity) (call : SlotCall) :
    ((call.perform c).on b).2.clock = b.clock ∨ ((call.perform c).on b).2.clock = b.ticked.clock := by
  rcases perform_cases h c call with ⟨e, he | he⟩ | ⟨v, b', he, hp⟩ <;> rw [he]
  · exact Or.inl rfl
  · exact Or.inr rfl
  · cases hp with
    | insert | rewrite => exact Or.inr rfl
    | delete => exact Or.inl rfl

theorem after_clock (h : Holding first b s) (calls : List (Capacity × SlotCall)) :
    (b.after calls).clock.item = b.clock.item ∧ b.clock.used ≤ (b.after calls).clock.used := by
  induction calls generalizing b s with
  | nil => exact ⟨rfl, Nat.le_refl _⟩
  | cons call calls ih =>
    obtain ⟨t, ht⟩ := h.perform call.1 call.2
    obtain ⟨hitem, hused⟩ := ih ht
    rcases perform_clock h.ready call.1 call.2 with hc | hc <;> rw [hc] at hitem hused
    · exact ⟨hitem, hused⟩
    · exact ⟨hitem, Nat.le_of_succ_le hused⟩

end Board

end Pasteboard
