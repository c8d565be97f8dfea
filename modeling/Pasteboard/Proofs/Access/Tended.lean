import Pasteboard.Proofs.Access.Gate
import Pasteboard.Proofs.Log.Keys
/-!
Keys that are enabled.

An operation enables no key but the one that it is told to enable, and one that it issues. An operation that disables or
deletes a key leaves no enabled key with this id, even where there is none.
-/

namespace Pasteboard
open Board

namespace Store

/-- A key is stored and enabled. -/
def Live (s : Store) (k : Issuance) : Prop := ∃ key ∈ s.keys, key.issuance = k ∧ key.enabled = true

/-- No key with an id is enabled. -/
def Shut (s : Store) (id : Int) : Prop := ∀ key ∈ s.keys, key.id = id → key.enabled = false

/-- A key that is live now was so before, has an id that is told to be enabled, or was not stored before. Keys are not
lost while some are issued, and not issued otherwise. -/
structure Tended (E : Int → Prop) (issuing : Prop) (s t : Store) : Prop where
  live : ∀ k, t.Live k → s.Live k ∨ E k.id ∨ k ∉ s.issuances
  kept : issuing → s.issuances ⊆ t.issuances
  bounded : ¬issuing → t.issuances ⊆ s.issuances

variable {E : Int → Prop} {issuing : Prop} {s t u : Store} {k : Issuance} {id : Int}

theorem Live.stored (h : s.Live k) : k ∈ s.issuances := by
  obtain ⟨key, hkey, rfl, -⟩ := h
  exact List.mem_map_of_mem hkey

theorem Live.of_keys (hkeys : t.keys = s.keys) (h : t.Live k) : s.Live k := by
  rwa [Live, hkeys] at h

theorem Shut.not_live (h : s.Shut k.id) : ¬s.Live k := by
  rintro ⟨key, hkey, rfl, henabled⟩
  exact absurd ((h key hkey rfl).symm.trans henabled) Bool.false_ne_true

theorem Shut.empty : Shut {} id := fun _ hkey => absurd hkey List.not_mem_nil

theorem Shut.of_absent (h : ¬s.keys.any (·.id == id) = true) : s.Shut id := by
  intro key hkey hid
  exact absurd (any_key_iff.mpr ⟨key.issuance, List.mem_map_of_mem hkey, hid⟩) h

namespace Tended

theorem refl (s : Store) : s.Tended E issuing s where
  live _ hk := Or.inl hk
  kept _ := List.Subset.refl _
  bounded _ := List.Subset.refl _

theorem trans (h : s.Tended E issuing t) (h' : t.Tended E issuing u) : s.Tended E issuing u where
  live k hk := by
    rcases h'.live k hk with hlive | henabled | hnew
    · exact h.live k hlive
    · exact Or.inr (Or.inl henabled)
    · -- What was issued by the second step was not there before the first, which would have kept it.
      by_cases hissuing : issuing
      · exact Or.inr (Or.inr fun hold => hnew (h.kept hissuing hold))
      · exact absurd (h'.bounded hissuing hk.stored) hnew
  kept hissuing := List.Subset.trans (h.kept hissuing) (h'.kept hissuing)
  bounded hissuing := List.Subset.trans (h'.bounded hissuing) (h.bounded hissuing)

theorem of_issuances (hissuances : t.issuances = s.issuances) (hlive : ∀ k, t.Live k → s.Live k ∨ E k.id) :
    s.Tended E issuing t where
  live k hk := (hlive k hk).imp_right Or.inl
  kept _ := hissuances ▸ List.Subset.refl _
  bounded _ := hissuances ▸ List.Subset.refl _

theorem of_keys (hkeys : t.keys = s.keys) : s.Tended E issuing t :=
  .of_issuances (congrArg (List.map ApiKey.issuance) hkeys) fun _ hk => Or.inl (hk.of_keys hkeys)

/-- An edit of the key with an id that enables it only if that is told. -/
theorem edited {f : ApiKey → ApiKey} (hf : ∀ k, (f k).issuance = k.issuance)
    (henables : ∀ k : ApiKey, (f k).enabled = true → k.enabled = true ∨ E id) :
    s.Tended E issuing { s with keys := s.keys.map fun k => if k.id == id then f k else k } := by
  refine .of_issuances (Kept.of_edited (ApiKey.issuance_edited hf id)).issuances fun k hk => ?_
  obtain ⟨_, hmem, rfl, henabled⟩ := hk
  obtain ⟨key, hkey, rfl⟩ := List.mem_map.mp hmem
  rw [ApiKey.issuance_edited hf id]
  -- The edited key may be enabled by the edit; every other one was so before.
  by_cases hid : (key.id == id) = true
  · rw [if_pos hid] at henabled
    refine (henables key henabled).imp (fun hold => ⟨key, hkey, rfl, hold⟩) fun htold => ?_
    rwa [← beq_iff_eq.mp hid] at htold
  · rw [if_neg hid] at henabled
    exact Or.inl ⟨key, hkey, rfl, henabled⟩

theorem ruled (list : RuleList) (rules : List IpRule) : s.Tended E issuing (s.setRules list rules) := by
  cases list <;> exact .of_keys rfl

theorem issued {key : ApiKey} (hissuing : issuing) (hfresh : ∀ j ∈ s.issuances, j.id ≠ key.id) :
    s.Tended E issuing { s with keys := s.keys ++ [key] } where
  live k hk := by
    obtain ⟨k, hmem, rfl, henabled⟩ := hk
    rcases List.mem_append.mp hmem with hold | hnew
    · exact Or.inl ⟨k, hold, rfl, henabled⟩
    · obtain rfl := List.mem_singleton.mp hnew
      exact Or.inr (Or.inr fun hstored => hfresh _ hstored rfl)
  kept _ := by
    show _ ⊆ List.map _ (s.keys ++ [key])
    rw [List.map_append]
    exact List.subset_append_left _ _
  bounded hnot := absurd hissuing hnot

theorem deleted (hissuing : ¬issuing) (hkeys : t.keys = s.keys.filter (·.id != id)) : s.Tended E issuing t where
  live k hk := by
    obtain ⟨key, hkey, rfl, henabled⟩ := hk
    exact Or.inl ⟨key, List.mem_of_mem_filter (hkeys ▸ hkey), rfl, henabled⟩
  kept h := absurd h hissuing
  bounded _ := by
    rw [issuances, hkeys]
    exact List.map_subset _ (List.filter_subset_self _)

end Tended

/-- Noting a use enables nothing. -/
theorem SameButUse.tended (h : s.SameButUse id t) : s.Tended E issuing t := by
  refine .of_issuances (h.map_keys fun _ _ _ => rfl) fun k hk => Or.inl ?_
  obtain ⟨key', hkey', rfl, henabled⟩ := hk
  -- The note changes keys in place, so their ids, secrets and states are the same list before and after.
  have hmem := List.mem_map_of_mem (f := fun key => (key.issuance, key.enabled)) hkey'
  rw [h.map_keys fun _ _ _ => rfl] at hmem
  obtain ⟨key, hkey, hsame⟩ := List.mem_map.mp hmem
  rw [Prod.mk.injEq, henabled] at hsame
  exact ⟨key, hkey, hsame⟩

end Store

/-! ### Operations -/

namespace Board
open Store

variable {E : Int → Prop} {issuing : Prop} {id : Int}

theorem issueKey_tended {role : Role} {label : Option String} {enabled : Bool} (hissuing : issuing) :
    Moves (Tended E issuing) (issueKey role label enabled) := by
  refine issueKey_moves .refl fun h => ?_
  rw [(issueKey_eq_ok h).2]
  exact .issued hissuing (issueKey_fresh h)

theorem deleteKey_tended (hissuing : ¬issuing) : Moves (Tended E issuing) (deleteKey id) := by
  refine .change .refl fun s t h => ?_
  rw [(deleteKey_eq_ok h).2]
  exact .deleted hissuing rfl

/-- An edit that leaves alone whether the key is enabled. -/
theorem edit_tended {f : ApiKey → ApiKey} (hf : ∀ k, (f k).issuance = k.issuance)
    (hsame : ∀ k, (f k).enabled = k.enabled) : Moves (Tended E issuing) (change .keys (Store.updateKey id f)) :=
  updateKey_edited .refl fun _ => .edited hf fun k henabled => Or.inl (hsame k ▸ henabled)

theorem setRole_tended {role : Role} : Moves (Tended E issuing) (setRole id role) :=
  edit_tended (fun _ => rfl) fun _ => rfl

theorem setLabel_tended {label : Option String} : Moves (Tended E issuing) (setLabel id label) :=
  edit_tended (fun _ => rfl) fun _ => rfl

theorem touchKey_tended {ip : String} : Moves (Tended E issuing) (touchKey id ip) :=
  touchKey_edited .refl fun _ now => .edited (f := fun k => { k with lastUsedAt := some now, lastIp := some ip })
    (fun _ => rfl) fun _ => Or.inl

theorem overwriteRole_tended {role : String} : Moves (Tended E issuing) (overwriteRole id role) :=
  overwriteRole_edited .refl fun _ => .edited (f := fun k => { k with role }) (fun _ => rfl) fun _ => Or.inl

theorem setEnabled_tended {enabled : Bool} (henables : enabled = true → E id) :
    Moves (Tended E issuing) (setEnabled id enabled) :=
  updateKey_edited .refl fun _ =>
    .edited (f := fun k => { k with enabled }) (fun _ => rfl) fun _ h => Or.inr (henables h)

/-! What disables or deletes a key fails only where there is no key with the id. -/

theorem change_ends {table : Table} {f : Store → Except StoreError Store} {P : Store → Prop} (empty : P {})
    (hok : ∀ s t, f s = .ok t → P t) (herror : ∀ s e, f s = .error e → P s) (b : Board) :
    P ((change table f).on b).2.store := by
  by_cases hready : ∃ s, b.database = .ready s
  · obtain ⟨s, hs⟩ := hready
    rw [on_change hs]
    cases hf : f s with
    | ok t => exact hok s t hf
    | error e =>
      dsimp only
      rw [store_eq hs]
      exact herror s e hf
  · -- Without tables there is no key at all.
    obtain ⟨e, he⟩ := on_ask_unready table f (not_exists.mp hready)
    rw [change, Action.on_bind, he]
    dsimp only
    rw [store_unready (not_exists.mp hready)]
    exact empty

theorem setEnabled_shuts (b : Board) : ((setEnabled id false).on b).2.store.Shut id := by
  refine change_ends (P := fun s => s.Shut id) .empty (fun s t h => ?_) (fun s e h => ?_) b <;>
    unfold Store.setEnabled Store.updateKey at h <;> split at h <;> cases h
  · intro key hkey hid
    obtain ⟨k, -, rfl⟩ := List.mem_map.mp hkey
    by_cases hk : (k.id == id) = true
    · rw [if_pos hk]
    · rw [if_neg hk] at hid
      exact absurd (beq_iff_eq.mpr hid) hk
  · exact .of_absent ‹_›

theorem deleteKey_shuts (b : Board) : ((deleteKey id).on b).2.store.Shut id := by
  refine change_ends (P := fun s => s.Shut id) .empty (fun s t h => ?_) (fun s e h => ?_) b <;>
    unfold Store.deleteKey at h <;> split at h <;> cases h
  · intro key hkey hid
    simpa [hid] using (List.mem_filter.mp hkey).2
  · exact .of_absent ‹_›

end Board

namespace AccessCall
open Board Store
variable {E : Int → Prop} {issuing : Prop} {id : Int}

/-- The ids that an operation enables. -/
def Enables (call : AccessCall) (id : Int) : Prop := call = .setEnabled id true

/-- An operation disables or deletes the key with an id. -/
def Revokes (call : AccessCall) (id : Int) : Prop := call = .setEnabled id false ∨ call = .deleteKey id

theorem tended (call : AccessCall) (henables : ∀ id, call.Enables id → E id)
    (hissue : ∀ role label enabled, call = .issueKey role label enabled → issuing)
    (hdelete : ∀ id, call = .deleteKey id → ¬issuing) (b : Board) : b.store.Tended E issuing (call.on b).store := by
  cases call <;> rw [AccessCall.on]
  case issueKey role label enabled => exact (issueKey_tended (hissue role label enabled rfl)).on b
  case setRole => exact setRole_tended.on b
  case setLabel => exact setLabel_tended.on b
  case setEnabled id enabled =>
    refine (setEnabled_tended ?_).on b
    rintro rfl
    exact henables id rfl
  case deleteKey id => exact (deleteKey_tended (hdelete id rfl)).on b
  case touchKey => exact touchKey_tended.on b
  case overwriteRole => exact overwriteRole_tended.on b
  case addRule => exact (addRule_ruled .refl fun _ _ _ => .ruled _ _).on b
  case removeRule => exact (removeRule_ruled .refl fun _ _ _ => .ruled _ _).on b
  case switchRule => exact (switchRule_ruled .refl fun _ _ _ => .ruled _ _).on b

theorem shuts {call : AccessCall} (h : call.Revokes id) (b : Board) : (call.on b).store.Shut id := by
  rcases h with rfl | rfl
  · exact setEnabled_shuts b
  · exact deleteKey_shuts b

end AccessCall

/-- A call on slots leaves the keys alone. -/
theorem SlotCall.keys_eq (c : Capacity) (call : SlotCall) (b : Board) :
    ((call.perform c).on b).2.store.keys = b.store.keys := by
  by_cases hready : ∃ s, b.database = .ready s
  · obtain ⟨s, hs⟩ := hready
    rw [store_eq hs]
    rcases perform_cases hs c call with ⟨e, he | he⟩ | ⟨v, b', he, hp⟩ <;> rw [he]
    · rw [store_eq hs]
    · rw [store_eq (b := b.ticked) hs]
    · cases hp with
      | insert => exact (Store.trimmed_keys _).trans Store.filled_keys
      | rewrite | delete => rfl
  · obtain ⟨e, b', he, hsame, -⟩ := perform_unready (not_exists.mp hready) c call
    rw [he, store_congr hsame]

end Pasteboard
