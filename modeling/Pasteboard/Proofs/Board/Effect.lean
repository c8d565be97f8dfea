import Pasteboard.Board.Access
import Pasteboard.Proofs.Board.Action
/-!
What computations on a board leave alone.

A question leaves the data as it was whatever the answer, and a change does so when it fails. Both are kept
when computations are put together: questions one after the other are a question, and questions with a change at
the end are a change. How the data may move otherwise is a relation between the data before and after, which a
computation respects if the changes that it ends in do.
-/

namespace Pasteboard

/-- The outcome of a computation on a board, and the board afterwards. -/
def Board.run {ε α : Type} (b : Board) (x : ExceptT ε (StateM Board) α) : Except ε α × Board := ExceptT.run x b

/-- A computation that leaves the data as it was. -/
def Readonly {ε α : Type} (x : ExceptT ε (StateM Board) α) : Prop := ∀ b : Board, (b.run x).2.database = b.database

/-- A computation that leaves the data as it was unless it succeeds. -/
def Atomic {ε α : Type} (x : ExceptT ε (StateM Board) α) : Prop :=
  ∀ b : Board, (b.run x).2.database = b.database ∨ ∃ a, (b.run x).1 = .ok a

/-- A computation after which the data is related to the data before. -/
def Moves {ε α : Type} (R : Store → Store → Prop) (x : ExceptT ε (StateM Board) α) : Prop :=
  ∀ b : Board, R b.store (b.run x).2.store

section
variable {ε ε' α β : Type} {x : ExceptT ε (StateM Board) α} {f : α → ExceptT ε (StateM Board) β} {b b' : Board}

namespace Board

theorem run_eq_on (x : Action α) : b.run x = x.on b := rfl

theorem run_bind : b.run (x >>= f) = match b.run x with
    | (.ok a, b') => b'.run (f a)
    | (.error e, b') => (.error e, b') := by
  have h : b.run (x >>= f) = (ExceptT.bindCont f (b.run x).1) (b.run x).2 := rfl
  rw [h]
  rcases b.run x with ⟨_ | _, _⟩ <;> rfl

theorem run_bind_of_ok {a : α} (h : b.run x = (.ok a, b')) : b.run (x >>= f) = b'.run (f a) := by
  rw [run_bind, h]

theorem run_adapt (g : ε → ε') : b.run (ExceptT.adapt g x) = ((b.run x).1.mapError g, (b.run x).2) := rfl

end Board

open Board

/-! ### Questions -/

namespace Readonly

theorem pure (a : α) : Readonly (pure a : ExceptT ε (StateM Board) α) := fun _ => rfl

theorem throw (e : ε) : Readonly (throw e : ExceptT ε (StateM Board) α) := fun _ => rfl

theorem known (r : Except ε α) : Readonly (ExceptT.mk (Pure.pure r) : ExceptT ε (StateM Board) α) := fun _ => rfl

theorem get : Readonly (get : ExceptT ε (StateM Board) Board) := fun _ => rfl

/-- A computation that looks at the board first. -/
theorem look {f : Board → ExceptT ε (StateM Board) α} (hf : ∀ b, Readonly (f b)) : Readonly (MonadState.get >>= f) :=
  fun b => hf b b

theorem bind (hx : Readonly x) (hf : ∀ a, Readonly (f a)) : Readonly (x >>= f) := by
  intro b
  have hb := hx b
  rw [run_bind]
  rcases hr : b.run x with ⟨e | a, b'⟩ <;> rw [hr] at hb
  · exact hb
  · exact (hf a b').trans hb

theorem adapt (hx : Readonly x) (g : ε → ε') : Readonly (ExceptT.adapt g x) := hx

end Readonly

/-! ### Changes -/

namespace Atomic

theorem bind (hx : Readonly x) (hf : ∀ a, Atomic (f a)) : Atomic (x >>= f) := by
  intro b
  have hb := hx b
  rw [run_bind]
  rcases hr : b.run x with ⟨e | a, b'⟩ <;> rw [hr] at hb
  · exact Or.inl hb
  · exact (hf a b').imp_left fun h => h.trans hb

theorem adapt (hx : Atomic x) (g : ε → ε') : Atomic (ExceptT.adapt g x) := by
  intro b
  rw [run_adapt]
  refine (hx b).imp_right ?_
  rintro ⟨a, ha⟩
  exact ⟨a, by rw [ha]; rfl⟩

end Atomic

/-! ### Moves -/

namespace Moves
variable {R S : Store → Store → Prop}

theorem of_readonly (hR : ∀ s, R s s) (hx : Readonly x) : Moves R x := by
  intro b
  rw [store_congr (hx b)]
  exact hR _

theorem mono (hx : Moves R x) (hRS : ∀ s t, R s t → S s t) : Moves S x := fun b => hRS _ _ (hx b)

theorem bind (hR : ∀ s, R s s) (hx : Readonly x) (hf : ∀ a, Moves R (f a)) : Moves R (x >>= f) := by
  intro b
  have hb := hx b
  rw [run_bind]
  rcases hr : b.run x with ⟨e | a, b'⟩ <;> rw [hr] at hb
  · dsimp only
    rw [store_congr hb]
    exact hR _
  · rw [← store_congr hb]
    exact hf a b'

/-- What follows a result that is known. -/
theorem of_known {r : Except ε α} (hR : ∀ s, R s s) (hf : ∀ a, r = .ok a → Moves R (f a)) :
    Moves R ((ExceptT.mk (Pure.pure r) : ExceptT ε (StateM Board) α) >>= f) := by
  cases r with
  | error e => exact fun b => hR b.store
  | ok a => exact hf a rfl

/-- Moves one after the other. -/
theorem seq (htrans : ∀ s t u, R s t → R t u → R s u) (hx : Moves R x) (hf : ∀ a, Moves R (f a)) :
    Moves R (x >>= f) := by
  intro b
  have hb := hx b
  rw [run_bind]
  rcases hr : b.run x with ⟨e | a, b'⟩ <;> rw [hr] at hb
  · exact hb
  · exact htrans _ _ _ hb (hf a b')

theorem adapt (hx : Moves R x) (g : ε → ε') : Moves R (ExceptT.adapt g x) := hx

/-- A move, and an answer that reports it. -/
theorem report (hx : Moves R x) (g : α → β) :
    Moves R (x >>= fun a => (Pure.pure (g a) : ExceptT ε (StateM Board) β)) := by
  intro b
  have hb := hx b
  rw [run_bind]
  rcases hr : b.run x with ⟨e | a, b'⟩ <;> rw [hr] at hb <;> exact hb

/-- A move whose report is one. -/
theorem of_report {g : α → β} (h : Moves R (x >>= fun a => (Pure.pure (g a) : ExceptT ε (StateM Board) β))) :
    Moves R x := by
  intro b
  have hb := h b
  rw [run_bind] at hb
  rcases hr : b.run x with ⟨e | a, b'⟩ <;> rw [hr] at hb <;> exact hb

end Moves

end

namespace Board
variable {α : Type} {table : Table} {list : RuleList} {id : Int} {c : Capacity} {p : Payload} {actor : Actor}
  {position : Position} {filter : Filter}

/-! ### Questions about the data -/

theorem stored_readonly : Readonly (stored table) := by
  refine .look fun b => ?_
  cases b.database with
  | unopenable place => exact .throw _
  | blank => exact .throw _
  | ready s => exact .pure s

theorem opened_readonly : Readonly opened := by
  refine .look fun b => ?_
  cases b.database with
  | unopenable place => exact .throw _
  | blank => exact .pure _
  | ready s => exact .pure _

theorem hasIndex_readonly : Readonly hasIndex := by
  refine .look fun b => ?_
  cases b.database with
  | unopenable place => exact .throw _
  | blank => exact .pure _
  | ready s => exact .pure _

theorem readClock_readonly : Readonly readClock := fun _ => rfl

theorem ask_readonly (f : Store → Except StoreError α) : Readonly (ask table f) :=
  stored_readonly.bind fun _ => .known _

theorem search_readonly {fallback : Bool} {raw : String} {n : Nat} :
    Readonly (search fallback raw n filter position) := by
  refine .look fun b => ?_
  cases b.database with
  | unopenable place =>
    dsimp only
    cases Search.expression raw with
    | ok _ => exact .throw _
    | error fault => exact .throw _
  | blank =>
    refine Readonly.bind (.known _) fun found => ?_
    by_cases hfile : filter.isFile = some true
    · rw [if_pos hfile]
      exact .pure _
    · rw [if_neg hfile]
      exact .throw _
  | ready s => exact .known _

/-- Without tables there is no answer. -/
theorem on_ask_unready (table : Table) (f : Store → Except StoreError α) {b : Board} (h : ∀ s, b.database ≠ .ready s) :
    ∃ e, (ask table f).on b = (.error e, b) := by
  obtain ⟨_ | _ | s, _, _⟩ := b
  · exact ⟨_, rfl⟩
  · exact ⟨_, rfl⟩
  · exact absurd rfl (h s)

theorem keys_readonly : Readonly keys := ask_readonly _

theorem getKey_readonly : Readonly (getKey id) := ask_readonly _

theorem findKey_readonly {secret : String} : Readonly (findKey secret) := ask_readonly _

theorem rules_readonly : Readonly (rules list) := ask_readonly _

theorem getSlot_readonly : Readonly (getSlot id) := ask_readonly _

theorem getFile_readonly : Readonly (getFile id) := ask_readonly _

theorem latestId_readonly : Readonly latestId := ask_readonly _

theorem list_readonly {n : Nat} : Readonly (Board.list n filter position) := ask_readonly _

theorem count_readonly : Readonly (count filter) := ask_readonly _

theorem countActive_readonly : Readonly countActive := ask_readonly _

/-! ### Changes of the data -/

/-- A question whose answer comes with the data to store. -/
theorem store_atomic {f : Store → Except StoreError (α × Store)} :
    Atomic (ask table f >>= fun (a, s) => save s >>= fun _ => (Pure.pure a : Action α)) :=
  Atomic.bind (ask_readonly f) fun _ _ => Or.inr ⟨_, rfl⟩

theorem change_atomic (f : Store → Except StoreError Store) : Atomic (change table f) :=
  Atomic.bind (ask_readonly f) fun _ _ => Or.inr ⟨_, rfl⟩

theorem allocate_atomic : Atomic (allocate c p) :=
  Atomic.bind opened_readonly fun _ => Atomic.bind readClock_readonly fun _ => store_atomic

theorem replace_atomic (plan : Store → Except StoreError Store.Replacement) : Atomic (replace c table plan actor) :=
  Atomic.bind (ask_readonly plan) fun _ => Atomic.bind readClock_readonly fun _ => change_atomic _

theorem issueKey_atomic {role : Role} {label : Option String} {enabled : Bool} :
    Atomic (issueKey role label enabled) := by
  refine Atomic.bind opened_readonly fun _ => Atomic.bind readClock_readonly fun _ => ?_
  exact Atomic.bind .get fun b => Atomic.bind (ask_readonly _) fun _ _ => Or.inr ⟨_, rfl⟩

theorem addRule_atomic {cidr : String} : Atomic (addRule list cidr) := by
  unfold addRule
  dsimp only
  cases Net.normalizeCidr cidr with
  | ok block => exact Atomic.bind (.pure block) fun _ => Atomic.bind readClock_readonly fun _ => store_atomic
  | error fault => exact Atomic.bind (.throw _) fun _ => Atomic.bind readClock_readonly fun _ => store_atomic

end Board

/-! ### Moves of the data -/

namespace Moves
open Board

variable {α β : Type} {R : Store → Store → Prop} {table : Table}

theorem on {x : Action α} (hx : Moves R x) (b : Board) : R b.store (x.on b).2.store := hx b

/-- A question whose answer comes with the data to store. -/
theorem store {f : Store → Except StoreError α} {k : α → Action β}
    (hR : ∀ s, R s s) (made : α → Store) (hf : ∀ s a, f s = .ok a → R s (made a))
    (hk : ∀ a b, ((k a).on b).2.database = .ready (made a)) : Moves R (ask table f >>= k) := by
  intro b
  rw [run_eq_on, Action.on_bind]
  by_cases hready : ∃ s, b.database = .ready s
  · obtain ⟨s, hs⟩ := hready
    rw [on_ask hs]
    cases hfs : f s with
    | error e => exact hR _
    | ok a =>
      dsimp only
      rw [store_eq hs, store_eq (hk a b)]
      exact hf s a hfs
  · obtain ⟨e, he⟩ := on_ask_unready table f (not_exists.mp hready)
    rw [he]
    exact hR _

theorem change {f : Store → Except StoreError Store} (hR : ∀ s, R s s)
    (hf : ∀ s t, f s = .ok t → R s t) : Moves R (Board.change table f) :=
  store hR (fun t => t) hf fun _ _ => rfl

end Moves

end Pasteboard
