import Pasteboard.Proofs.Access.Calls
import Pasteboard.Proofs.Slots.Calls
/-!
The keys, and the log that names them.

An operation does one of four things to the keys and to the log: it leaves both, it appends an entry that names the key
of its actor, it issues a key under an id that no key has, or it deletes a key and takes its id out of the log.
-/

namespace Pasteboard

/-- The entry, which names no key if it named the one with an id. -/
def LogEntry.forget (id : Int) (e : LogEntry) : LogEntry :=
  if e.byKeyId == some id then { e with byKeyId := none } else e

namespace LogEntry

theorem forget_of_ne {e : LogEntry} {id : Int} (h : e.byKeyId ≠ some id) : e.forget id = e := if_neg (by simpa using h)

theorem forget_byKeyId {e : LogEntry} {id i : Int} (h : (e.forget id).byKeyId = some i) :
    i ≠ id ∧ e.forget id = e ∧ e.byKeyId = some i := by
  by_cases he : e.byKeyId = some id
  · simp [forget, he] at h
  · rw [forget_of_ne he] at h ⊢
    refine ⟨?_, rfl, h⟩
    rintro rfl
    exact he h

end LogEntry

namespace Store

/-- What identifies the stored keys. -/
def issuances (s : Store) : List Issuance := s.keys.map ApiKey.issuance

/-- The keys are the same but for what can be edited of them, and the log is the same. -/
structure Kept (s t : Store) : Prop where
  issuances : t.issuances = s.issuances
  log : t.log = s.log

/-- What an operation does to keys and log, where `P` holds of the key that it is made under. -/
inductive Moved (P : Issuance → Prop) (s t : Store) : Prop
  | kept (h : s.Kept t)
  | logged {e : LogEntry} (issuances : t.issuances = s.issuances) (log : t.log = s.log ++ [e])
      (made : ∀ id, e.byKeyId = some id → ∃ k ∈ s.issuances, k.id = id ∧ P k)
  | issued {k : Issuance} (fresh : ∀ j ∈ s.issuances, j.id ≠ k.id) (issuances : t.issuances = s.issuances ++ [k])
      (log : t.log = s.log)
  | deleted {id : Int} (present : ∃ k ∈ s.issuances, k.id = id)
      (issuances : t.issuances = s.issuances.filter (·.id != id)) (log : t.log = s.log.map (LogEntry.forget id))

variable {s t u : Store} {P Q : Issuance → Prop}

namespace Kept

theorem refl (s : Store) : s.Kept s := ⟨rfl, rfl⟩

theorem trans (h : s.Kept t) (h' : t.Kept u) : s.Kept u := ⟨h'.issuances.trans h.issuances, h'.log.trans h.log⟩

theorem of_eq (hkeys : t.keys = s.keys) (hlog : t.log = s.log) : s.Kept t :=
  ⟨congrArg (List.map ApiKey.issuance) hkeys, hlog⟩

theorem of_edited {f : ApiKey → ApiKey} (hf : ∀ k, (f k).issuance = k.issuance) :
    s.Kept { s with keys := s.keys.map f } where
  issuances := by
    show (s.keys.map f).map ApiKey.issuance = s.keys.map ApiKey.issuance
    rw [List.map_map]
    exact List.map_congr_left fun k _ => hf k
  log := rfl

theorem moved (h : s.Kept t) (h' : t.Moved P u) : s.Moved P u := by
  cases h' with
  | kept h' => exact .kept (h.trans h')
  | logged hkeys hlog hmade =>
    refine .logged (hkeys.trans h.issuances) (hlog.trans (by rw [h.log])) fun id hid => ?_
    rw [← h.issuances]
    exact hmade id hid
  | issued hfresh hkeys hlog =>
    rw [h.issuances] at hfresh hkeys
    exact .issued hfresh hkeys (hlog.trans h.log)
  | deleted hpresent hkeys hlog =>
    rw [h.issuances] at hpresent hkeys
    exact .deleted hpresent hkeys (hlog.trans (by rw [h.log]))

end Kept

namespace Moved

theorem refl (s : Store) : s.Moved P s := .kept (.refl s)

theorem mono (h : s.Moved P t) (hPQ : ∀ k ∈ s.issuances, P k → Q k) : s.Moved Q t := by
  cases h with
  | kept h => exact .kept h
  | logged hkeys hlog hmade =>
    refine .logged hkeys hlog fun id hid => ?_
    obtain ⟨k, hk, hid, hP⟩ := hmade id hid
    exact ⟨k, hk, hid, hPQ k hk hP⟩
  | issued hfresh hkeys hlog => exact .issued hfresh hkeys hlog
  | deleted hpresent hkeys hlog => exact .deleted hpresent hkeys hlog

end Moved

/-! ### Operations on keys and rules -/

theorem any_key_iff {id : Int} : s.keys.any (·.id == id) = true ↔ ∃ k ∈ s.issuances, k.id = id := by
  simp [issuances, ApiKey.issuance]

/-- A new key has an id that no key has. -/
theorem issueKey_fresh {secret : String} {role : Role} {label : Option String} {enabled : Bool} {now : Int}
    {key : ApiKey} (h : s.issueKey secret role label enabled now = .ok (key, t)) :
    ∀ j ∈ s.issuances, j.id ≠ key.id := by
  intro j hj he
  obtain ⟨k, hk, rfl⟩ := List.mem_map.mp hj
  have hlt : k.id < nextId (s.keys.map (·.id)) := lt_nextId (List.mem_map_of_mem hk)
  have hid : k.id = key.id := he
  rw [hid, (issueKey_eq_ok h).1] at hlt
  exact absurd hlt (lt_irrefl _)

theorem Accessed.moved (h : s.Accessed t) : s.Moved P t := by
  cases h with
  | same => exact .refl s
  | @issued secret role label enabled now key _ h =>
    refine .issued (k := key.issuance) (issueKey_fresh h) ?_ ?_
    · simp [issuances, (issueKey_eq_ok h).2]
    · rw [(issueKey_eq_ok h).2]
  | edited hf => exact .kept (.of_edited hf)
  | @deleted id _ h =>
    obtain ⟨hany, rfl⟩ := deleteKey_eq_ok h
    refine .deleted (any_key_iff.mp hany) ?_ rfl
    rw [issuances, issuances, List.filter_map]
    rfl
  | ruled list => cases list <;> exact .kept (.of_eq rfl rfl)

end Store

/-! ### Operations on slots -/

namespace Board
open Store

variable {b : Board} {c : Capacity} {x : Payload} {id : Int} {table : Table} {actor : Actor} {P : Issuance → Prop}

theorem createTables_kept (fullText : Bool) (b : Board) : b.store.Kept ((createTables fullText).on b).2.store := by
  obtain ⟨index, -, hcreate⟩ := on_createTables fullText b
  rw [hcreate]
  exact .of_eq rfl rfl

theorem allocate_kept : Moves Kept (allocate c x) := by
  refine .bind .refl opened_readonly fun _ => .bind .refl readClock_readonly fun now => ?_
  refine .store .refl Prod.snd (fun s made h => ?_) fun _ _ => rfl
  rw [allocate_eq] at h
  cases h
  have hkeys : (s.filled c now x).keys = s.keys := filled_keys
  have hlog : (s.filled c now x).log = s.log := filled_log
  exact .of_eq hkeys hlog

theorem delete_kept : Moves Kept (Board.delete id) := by
  refine .change .refl fun s t h => ?_
  rw [delete_eq] at h
  split at h <;> cases h
  exact .of_eq rfl rfl

/-- A replacement leaves an entry that names the key of its actor, which is there. -/
theorem replace_moved (plan : Store → Except StoreError Replacement) :
    Moves (Moved fun k => actor.keyId = some k.id) (replace c table plan actor) := by
  refine .bind .refl (ask_readonly plan) fun target => .bind .refl readClock_readonly fun now => ?_
  obtain ⟨before, x⟩ := target
  refine .change .refl fun s t h => ?_
  rw [replaceRow_eq] at h
  by_cases hk : s.knows actor = true
  · rw [if_pos hk] at h
    cases h
    refine .logged rfl rfl fun id hid => ?_
    have hactor : actor.keyId = some id := hid
    rw [knows, hactor] at hk
    obtain ⟨k, hmem, rfl⟩ := any_key_iff.mp hk
    exact ⟨k, hmem, rfl, hactor⟩
  · rw [if_neg hk] at h
    cases h

end Board

end Pasteboard
