import Pasteboard.Board.Slots
/-!
What actions do to a board.

An action is run on a board and gives an answer and the board afterwards. Each action on slots is
reduced to the operation on the stored data that it carries out: on a database with tables it answers
with the outcome of the operation, takes at most one reading of the clock, and stores other data only
if the operation succeeds.
-/

namespace Pasteboard

/-- The answer of an action on a board, and the board afterwards. -/
def Action.on {α : Type} (x : Action α) (b : Board) : Except StoreError α × Board := x.run.run b

namespace Action
variable {α β : Type} {b b' : Board}

@[simp] theorem on_pure (a : α) : (pure a : Action α).on b = (.ok a, b) := rfl

@[simp] theorem on_of (r : Except StoreError α) : (Action.of r).on b = (r, b) := rfl

theorem on_bind (x : Action α) (f : α → Action β) :
    (x >>= f).on b = match x.on b with
      | (.ok a, b') => (f a).on b'
      | (.error e, b') => (.error e, b') := by
  have h : (x >>= f).on b = (ExceptT.bindCont f (x.on b).1) (x.on b).2 := rfl
  rw [h]
  rcases x.on b with ⟨_ | _, _⟩ <;> rfl

theorem on_bind_of_ok {x : Action α} {f : α → Action β} {a : α} (h : x.on b = (.ok a, b')) :
    (x >>= f).on b = (f a).on b' := by
  rw [on_bind, h]

end Action

namespace Board
variable {b : Board} {s : Store} {table : Table}

/-- The next reading of the clock of a board. -/
def now (b : Board) : Int := b.clock.item b.clock.used

/-- The board after one more reading of its clock. -/
def ticked (b : Board) : Board := { b with clock := b.clock.next.2 }

/-- The board with other data. -/
def storing (b : Board) (s : Store) : Board := { b with database := .ready s }

/-- The data of a board, empty while there are no tables. -/
def store (b : Board) : Store :=
  match b.database with
  | .ready s => s
  | _ => {}

theorem store_eq (h : b.database = .ready s) : b.store = s := by
  rw [Board.store, h]

theorem store_unready (h : ∀ s, b.database ≠ .ready s) : b.store = {} := by
  unfold Board.store
  split
  · exact absurd ‹_› (h _)
  · rfl

theorem store_congr {b' : Board} (h : b'.database = b.database) : b'.store = b.store := by
  rw [Board.store, Board.store, h]

@[simp] theorem ticked_item : b.ticked.clock.item = b.clock.item := rfl
@[simp] theorem ticked_used : b.ticked.clock.used = b.clock.used + 1 := rfl

/-! ### Parts of actions -/

theorem on_opened (h : b.database = .ready s) : opened.on b = (.ok (), b) := by
  obtain ⟨_, _, _⟩ := b
  subst h
  rfl

theorem on_stored (h : b.database = .ready s) : (stored table).on b = (.ok s, b) := by
  obtain ⟨_, _, _⟩ := b
  subst h
  rfl

theorem on_readClock : readClock.on b = (.ok b.now, b.ticked) := rfl

theorem on_ask {α : Type} {f : Store → Except StoreError α} (h : b.database = .ready s) :
    (ask table f).on b = (f s, b) := by
  rw [ask, Action.on_bind_of_ok (on_stored h), Action.on_of]

theorem on_change {f : Store → Except StoreError Store} (h : b.database = .ready s) :
    (change table f).on b = match f s with
      | .ok t => (.ok (), b.storing t)
      | .error e => (.error e, b) := by
  rw [change, Action.on_bind, on_ask h]
  cases f s <;> rfl

/-- Making the tables keeps the rows; an index is taken away, kept, or built from them. -/
theorem on_createTables (fullText : Bool) (b : Board) : ∃ index : Option Search.Index,
    (index = none ∨ index = b.store.index ∨ index = some (Search.Index.rebuild b.store.slots)) ∧
      ((createTables fullText).on b).2 = b.storing { b.store with index } := by
  have hcreate : ((createTables fullText).on b).2 = b.storing { b.store with
      index := if fullText then some (b.store.index.getD (Search.Index.rebuild b.store.slots)) else none } := by
    obtain ⟨_ | _ | s, _, _⟩ := b <;> rfl
  refine ⟨_, ?_, hcreate⟩
  cases fullText with
  | false => exact Or.inl rfl
  | true => cases b.store.index with
    | none => exact Or.inr (Or.inr rfl)
    | some x => exact Or.inr (Or.inl rfl)

/-! ### Changes of slots -/

theorem on_allocate {c : Capacity} {p : Payload} (h : b.database = .ready s) :
    (allocate c p).on b = match s.allocate c b.now p with
      | .ok (id, t) => (.ok id, b.ticked.storing t)
      | .error e => (.error e, b.ticked) := by
  rw [allocate, Action.on_bind_of_ok (on_opened h), Action.on_bind_of_ok on_readClock, Action.on_bind,
    on_ask (b := b.ticked) h]
  cases s.allocate c b.now p <;> rfl

theorem on_replace {c : Capacity} {plan : Store → Except StoreError Store.Replacement} {actor : Actor}
    (h : b.database = .ready s) :
    (replace c table plan actor).on b = match plan s with
      | .error e => (.error e, b)
      | .ok (before, p) => match s.replaceRow c b.now before p actor with
        | .ok t => (.ok (), b.ticked.storing t)
        | .error e => (.error e, b.ticked) := by
  rw [replace, Action.on_bind, on_ask h]
  rcases plan s with e | ⟨before, p⟩
  · rfl
  · dsimp only
    rw [Action.on_bind_of_ok on_readClock, on_change (b := b.ticked) h]

theorem on_delete {id : Int} (h : b.database = .ready s) :
    (delete id).on b = match s.delete id with
      | .ok t => (.ok (), b.storing t)
      | .error e => (.error e, b) := on_change h

/-! ### Questions about slots -/

theorem on_getSlot {id : Int} (h : b.database = .ready s) : (getSlot id).on b = (s.get id, b) := on_ask h

theorem on_getFile {id : Int} (h : b.database = .ready s) : (getFile id).on b = (s.getFile id, b) := on_ask h

theorem on_latestId (h : b.database = .ready s) : latestId.on b = (.ok s.latestId, b) := on_ask h

theorem on_list {limit : Nat} {f : Filter} {position : Position} (h : b.database = .ready s) :
    (list limit f position).on b = (.ok (s.list limit f position), b) := on_ask h

theorem on_countActive (h : b.database = .ready s) : countActive.on b = (.ok s.countActive, b) := on_ask h

end Board

end Pasteboard
