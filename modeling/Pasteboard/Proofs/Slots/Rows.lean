import Mathlib
import Pasteboard.Store.Slots
/-!
Changes of rows, and the operations on slots as sequences of them.

No operation ever breaks the constraint on rows, so each of them is a total change of the store: it
adds a row or fills one, logs, and retires what is beyond the capacity. The equations below are the
only place where the operations are opened. Ids of rows count from one without a gap, and a change
leaves them as they are.
-/

namespace Pasteboard

/-! ### Payloads -/

/-- The payload of an active row. -/
def Row.payload (r : Row) : Payload :=
  if r.isFile then .file ⟨r.filename.getD "", r.mime.getD "", r.blob.getD ByteArray.empty⟩
  else .text (r.content.getD "")

/-- What a record shows of a payload. -/
def Payload.body : Payload → Body
  | .text content => .text content
  | .file upload => .file upload.filename upload.mime upload.data.size

theorem Payload.eq_text_of_body {x : Payload} {content : String} (h : x.body = .text content) : x = .text content := by
  cases x with
  | text old =>
    cases h
    rfl
  | file upload => cases h

theorem Row.body_eq {r : Row} (h : r.isActive = true) : r.body = r.payload.body := by
  cases hf : r.isFile
  · simp [Row.body, Row.payload, Payload.body, h, hf]
  · cases hb : r.blob <;> simp [Row.body, Row.payload, Payload.body, h, hf, hb]

/-- What a row that satisfies the constraint has in its payload columns: nothing, a text, or a file. -/
theorem Row.check_cases {r : Row} (h : r.check = true) :
    (r.isActive = false ∧ r.content = none ∧ r.filename = none ∧ r.mime = none ∧ r.blob = none) ∨
    (∃ content, r.isActive = true ∧ r.isFile = false ∧
      r.content = some content ∧ r.filename = none ∧ r.mime = none ∧ r.blob = none) ∨
    ∃ filename mime data, r.isActive = true ∧ r.isFile = true ∧
      r.content = none ∧ r.filename = some filename ∧ r.mime = some mime ∧ r.blob = some data := by
  cases hact : r.isActive with
  | false =>
    simp only [Row.check, hact, Bool.and_eq_true, Option.isNone_iff_eq_none] at h
    obtain ⟨⟨⟨hcontent, hblob⟩, hname⟩, hmime⟩ := h
    exact Or.inl ⟨rfl, hcontent, hname, hmime, hblob⟩
  | true => cases hfile : r.isFile with
    | false =>
      simp only [Row.check, hact, hfile, Bool.and_eq_true, Option.isNone_iff_eq_none, Option.isSome_iff_exists] at h
      obtain ⟨⟨⟨⟨content, hcontent⟩, hblob⟩, hname⟩, hmime⟩ := h
      exact Or.inr (Or.inl ⟨content, rfl, rfl, hcontent, hname, hmime, hblob⟩)
    | true =>
      simp only [Row.check, hact, hfile, Bool.and_eq_true, Option.isNone_iff_eq_none, Option.isSome_iff_exists] at h
      obtain ⟨⟨⟨hcontent, data, hblob⟩, filename, hname⟩, mime, hmime⟩ := h
      exact Or.inr (Or.inr ⟨filename, mime, data, rfl, rfl, hcontent, hname, hmime, hblob⟩)

theorem Row.exists_content {r : Row} (h : r.check = true) (htext : r.isActiveText = true) :
    ∃ content, r.content = some content := by
  rcases Row.check_cases h with ⟨hact, -⟩ | ⟨content, -, -, hcontent, -⟩ | ⟨_, _, _, hact, hfile, -⟩
  · simp [Row.isActiveText, hact] at htext
  · exact ⟨content, hcontent⟩
  · simp [Row.isActiveText, hact, hfile] at htext

namespace Store
variable {s : Store} {p : Row → Bool} {f : Row → Row} {now : Int} {x : Payload} {id : Int}

/-! ### Rows that may be stored -/

@[simp] theorem fill_id (r : Row) : (fill now x r).id = r.id := by cases x <;> rfl

@[simp] theorem fill_isActive (r : Row) : (fill now x r).isActive = true := by cases x <;> rfl

@[simp] theorem fill_createdAt (r : Row) : (fill now x r).createdAt = some now := by cases x <;> rfl

@[simp] theorem fill_payload (r : Row) : (fill now x r).payload = x := by cases x <;> rfl

/-- A filled row keeps nothing of what it was but its id. -/
theorem fill_eq_fresh (r : Row) : fill now x r = fill now x (Row.fresh r.id) := by cases x <;> rfl

@[simp] theorem fill_check (r : Row) : (fill now x r).check = true := by cases x <;> rfl

@[simp] theorem refill_id (r : Row) : (refill now x r).id = r.id := by cases x <;> rfl

@[simp] theorem refill_isActive (r : Row) : (refill now x r).isActive = true := by cases x <;> rfl

@[simp] theorem refill_createdAt (r : Row) :
    (refill now x r).createdAt = if r.isActive then r.createdAt else some now := by cases x <;> rfl

@[simp] theorem refill_payload (r : Row) : (refill now x r).payload = x := by cases x <;> rfl

@[simp] theorem refill_check (r : Row) : (refill now x r).check = true := by cases x <;> rfl

end Store

@[simp] theorem Row.retired_id (r : Row) : r.retired.id = r.id := rfl

@[simp] theorem Row.retired_isActive (r : Row) : r.retired.isActive = false := rfl

@[simp] theorem Row.retired_check (r : Row) : r.retired.check = true := by
  cases h : r.isFile <;> simp [Row.check, Row.retired]

namespace Store
variable {s : Store} {p : Row → Bool} {f : Row → Row} {now : Int} {x : Payload} {id : Int} {c : Capacity}

/-! ### Changes -/

/-- The store after `f` changed the rows that satisfy `p`. -/
def changeRows (s : Store) (p : Row → Bool) (f : Row → Row) : Store :=
  { s with
    slots := s.slots.map fun r => if p r then f r else r
    index := s.index.map (·.applyAll ((s.slots.filter p).flatMap fun r => Search.updateCommands r (f r))) }

/-- The store after a row was added. -/
def addRow (s : Store) (r : Row) : Store :=
  { s with slots := s.slots ++ [r], index := s.index.map (·.applyAll (Search.insertCommands r)) }

/-- The store after the row with an id was changed. -/
def setRow (s : Store) (id : Int) (f : Row → Row) : Store := s.changeRows (·.id == id) f

/-- The store after the active rows beyond the `n` newest were retired. -/
def trimmed (s : Store) (n : Nat) : Store := s.changeRows (fun r => (s.surplus n).contains r.id) Row.retired

/-- The store after a replacement was logged. -/
def logged (s : Store) (time : Int) (before : Row) (after : Payload) (actor : Actor) : Store :=
  { s with log := s.log ++ [LogEntry.ofReplacement (nextId (s.log.map (·.id))) time before after actor] }

@[simp] theorem changeRows_slots : (s.changeRows p f).slots = s.slots.map fun r => if p r then f r else r := rfl
@[simp] theorem addRow_slots (r : Row) : (s.addRow r).slots = s.slots ++ [r] := rfl
@[simp] theorem addRow_log (r : Row) : (s.addRow r).log = s.log := rfl
@[simp] theorem addRow_keys (r : Row) : (s.addRow r).keys = s.keys := rfl
@[simp] theorem setRow_log : (s.setRow id f).log = s.log := rfl
@[simp] theorem setRow_keys : (s.setRow id f).keys = s.keys := rfl
@[simp] theorem trimmed_keys (n : Nat) : (s.trimmed n).keys = s.keys := rfl
@[simp] theorem logged_slots (before : Row) (actor : Actor) : (s.logged now before x actor).slots = s.slots := rfl

theorem changeRows_ids (hid : ∀ r, (f r).id = r.id) : (s.changeRows p f).slots.map (·.id) = s.slots.map (·.id) := by
  rw [changeRows_slots, List.map_map]
  refine List.map_congr_left fun r _ => ?_
  by_cases hp : p r = true <;> simp [hp, hid]

theorem mem_changeRows {r : Row} : r ∈ (s.changeRows p f).slots ↔ ∃ t ∈ s.slots, (if p t then f t else t) = r :=
  List.mem_map

theorem mem_setRow {r : Row} (h : r ∈ (s.setRow id f).slots) :
    (r ∈ s.slots ∧ r.id ≠ id) ∨ ∃ t ∈ s.slots, t.id = id ∧ f t = r := by
  obtain ⟨t, ht, rfl⟩ := mem_changeRows.mp h
  by_cases hid : t.id = id
  · exact Or.inr ⟨t, ht, hid, (if_pos (beq_iff_eq.mpr hid)).symm⟩
  · rw [if_neg (by simpa using hid)]
    exact Or.inl ⟨ht, hid⟩

theorem updateRows_eq (h : ∀ r, (f r).check = true) : s.updateRows p f = .ok (s.changeRows p f) :=
  if_pos (List.all_eq_true.mpr fun r _ => h r)

theorem trim_eq (n : Nat) :
    s.trim n = .ok ((s.slots.filter fun r => (s.surplus n).contains r.id).length, s.trimmed n) := by
  rw [trim, updateRows_eq Row.retired_check]
  rfl

/-! ### Operations -/

/-- The id of the row that a new payload takes, and the store in which there is such a row. -/
def claim (c : Capacity) (s : Store) : Int × Store :=
  match s.target c with
  | some r => (r.id, s)
  | none => (nextId (s.slots.map (·.id)), s.addRow (Row.fresh (nextId (s.slots.map (·.id)))))

/-- The store after a new payload was put into the row that it takes. -/
def filled (c : Capacity) (now : Int) (x : Payload) (s : Store) : Store :=
  (s.claim c).2.setRow (s.claim c).1 (fill now x)

/-- The store after the payload of a row was replaced, and before the surplus is retired. -/
def rewritten (now : Int) (before : Row) (x : Payload) (actor : Actor) (s : Store) : Store :=
  (s.setRow before.id (refill now x)).logged now before x actor

/-- The store after an active slot was retired. -/
def deleted (id : Int) (s : Store) : Store := s.changeRows (fun r => r.id == id && r.isActive) Row.retired

/-- Whether the key that an actor names is there. -/
def knows (s : Store) (actor : Actor) : Bool :=
  match actor.keyId with
  | some keyId => s.keys.any (·.id == keyId)
  | none => true

theorem claim_of_some {r : Row} (h : s.target c = some r) : s.claim c = (r.id, s) := by
  unfold claim
  rw [h]

theorem claim_of_none (h : s.target c = none) :
    s.claim c = (nextId (s.slots.map (·.id)), s.addRow (Row.fresh (nextId (s.slots.map (·.id))))) := by
  unfold claim
  rw [h]

@[simp] theorem filled_log : (s.filled c now x).log = s.log := by
  cases ht : s.target c with
  | some r => rw [filled, claim_of_some ht, setRow_log]
  | none => rw [filled, claim_of_none ht, setRow_log, addRow_log]

@[simp] theorem filled_keys : (s.filled c now x).keys = s.keys := by
  cases ht : s.target c with
  | some r => rw [filled, claim_of_some ht, setRow_keys]
  | none => rw [filled, claim_of_none ht, setRow_keys, addRow_keys]

/-- A new payload always finds a row. -/
theorem allocate_eq : s.allocate c now x = .ok ((s.claim c).1, (s.filled c now x).trimmed c.size) := by
  unfold allocate filled claim
  cases s.target c with
  | some r =>
    dsimp only [pure, Except.pure, bind, Except.bind]
    rw [updateRows_eq fill_check]
    dsimp only
    rw [trim_eq]
    rfl
  | none =>
    have hfresh : s.insertRow (Row.fresh (nextId (s.slots.map (·.id)))) =
        .ok (s.addRow (Row.fresh (nextId (s.slots.map (·.id))))) := rfl
    dsimp only [pure, Except.pure, bind, Except.bind]
    rw [hfresh]
    dsimp only
    rw [updateRows_eq fill_check]
    dsimp only
    rw [trim_eq]
    rfl

/-- A replacement fails only if the actor's key is not there. -/
theorem replaceRow_eq {before : Row} {actor : Actor} :
    s.replaceRow c now before x actor =
      if s.knows actor then .ok ((s.rewritten now before x actor).trimmed c.size)
      else .error (.database .foreignKey) := by
  unfold replaceRow
  rw [updateRows_eq refill_check]
  dsimp only [bind, Except.bind]
  by_cases h : s.knows actor = true
  · rw [if_pos h]
    have hlog : (s.changeRows (·.id == before.id) (refill now x)).appendLog now before x actor =
        .ok (s.rewritten now before x actor) := if_pos h
    rw [hlog]
    dsimp only
    rw [trim_eq]
    rfl
  · rw [if_neg h]
    have hlog : (s.changeRows (·.id == before.id) (refill now x)).appendLog now before x actor =
        .error (.database .foreignKey) := if_neg h
    rw [hlog]

/-- A deletion fails only if no active slot has the id. -/
theorem delete_eq : s.delete id =
    if s.slots.any (fun r => r.id == id && r.isActive) then .ok (s.deleted id) else .error .notFound := by
  unfold delete
  rw [updateRows_eq Row.retired_check]
  rfl

/-! ### Ids and the constraint -/

/-- The ids from one to `n`. -/
def idsUpTo (n : Nat) : List Int := (List.range n).map fun i : Nat => (i : Int) + 1

theorem idsUpTo_succ (n : Nat) : idsUpTo (n + 1) = idsUpTo n ++ [(n : Int) + 1] := by
  simp [idsUpTo, List.range_succ]

theorem mem_idsUpTo {n : Nat} : id ∈ idsUpTo n ↔ 1 ≤ id ∧ id ≤ n := by
  simp only [idsUpTo, List.mem_map, List.mem_range]
  constructor
  · rintro ⟨i, hi, rfl⟩
    omega
  · rintro ⟨h1, hn⟩
    exact ⟨(id - 1).toNat, by omega, by omega⟩

theorem idsUpTo_nodup (n : Nat) : (idsUpTo n).Nodup :=
  List.nodup_range.map fun i j h => by
    have he : (i : Int) + 1 = (j : Int) + 1 := h
    omega

theorem foldl_max_idsUpTo (n : Nat) : (idsUpTo n).foldl max 0 = n := by
  induction n with
  | zero => rfl
  | succ n ih =>
    rw [idsUpTo_succ, List.foldl_append, ih, List.foldl_cons, List.foldl_nil]
    push_cast
    omega

/-- A new id is above all others. -/
theorem lt_nextId {ids : List Int} {i : Int} (h : i ∈ ids) : i < nextId ids := by
  have hle : ∀ (ids : List Int) (m : Int), m ≤ ids.foldl max m ∧ ∀ i ∈ ids, i ≤ ids.foldl max m := by
    intro ids
    induction ids with
    | nil => exact fun m => ⟨le_refl m, fun i hi => absurd hi List.not_mem_nil⟩
    | cons j ids ih =>
      intro m
      obtain ⟨hmax, hmem⟩ := ih (max m j)
      refine ⟨(le_max_left m j).trans hmax, fun i hi => ?_⟩
      rcases List.mem_cons.mp hi with rfl | hi
      · exact (le_max_right m i).trans hmax
      · exact hmem i hi
  have := (hle ids 0).2 i h
  rw [nextId]
  omega

/-- Ids count from one without a gap, and every row satisfies the constraint. -/
structure Sound (s : Store) : Prop where
  ids : s.slots.map (·.id) = idsUpTo s.slots.length
  check : ∀ r ∈ s.slots, r.check = true

namespace Sound

theorem empty : Sound {} := ⟨rfl, fun _ hr => absurd hr List.not_mem_nil⟩

theorem nodup (h : s.Sound) : (s.slots.map (·.id)).Nodup := h.ids ▸ idsUpTo_nodup _

theorem nextId_eq (h : s.Sound) : nextId (s.slots.map (·.id)) = (s.slots.length : Int) + 1 := by
  rw [h.ids, nextId, foldl_max_idsUpTo]

theorem id_bounds (h : s.Sound) {r : Row} (hr : r ∈ s.slots) : 1 ≤ r.id ∧ r.id ≤ s.slots.length := by
  have hmem : r.id ∈ s.slots.map (·.id) := List.mem_map_of_mem hr
  rw [h.ids] at hmem
  exact mem_idsUpTo.mp hmem

theorem changeRows (h : s.Sound) (hid : ∀ r, (f r).id = r.id) (hf : ∀ r, (f r).check = true) :
    (s.changeRows p f).Sound where
  ids := by rw [changeRows_ids hid, h.ids, changeRows_slots, List.length_map]
  check := by
    intro r hr
    obtain ⟨t, ht, rfl⟩ := mem_changeRows.mp hr
    by_cases hp : p t = true
    · simp [hp, hf]
    · simpa [hp] using h.check t ht

theorem addFresh (h : s.Sound) : (s.addRow (Row.fresh (nextId (s.slots.map (·.id))))).Sound where
  ids := by
    rw [addRow_slots, List.map_append, List.length_append, h.nextId_eq, h.ids]
    exact (idsUpTo_succ _).symm
  check := by
    intro r hr
    rcases List.mem_append.mp hr with hr | hr
    · exact h.check r hr
    · obtain rfl := List.mem_singleton.mp hr
      rfl

theorem claim (h : s.Sound) : (s.claim c).2.Sound := by
  cases ht : s.target c with
  | some r => rw [claim_of_some ht]; exact h
  | none => rw [claim_of_none ht]; exact h.addFresh

theorem filled (h : s.Sound) : (s.filled c now x).Sound := h.claim.changeRows fill_id fill_check

theorem rewritten (h : s.Sound) {before : Row} {actor : Actor} : (s.rewritten now before x actor).Sound :=
  have hset : (s.setRow before.id (refill now x)).Sound := h.changeRows refill_id refill_check
  ⟨hset.ids, hset.check⟩

theorem retire (h : s.Sound) : (s.changeRows p Row.retired).Sound := h.changeRows Row.retired_id Row.retired_check

theorem deleted (h : s.Sound) : (s.deleted id).Sound := h.retire

theorem trimmed (h : s.Sound) (n : Nat) : (s.trimmed n).Sound := h.retire

end Sound

/-! ### Times -/

/-- Every time of creation of a row is one of `T`. -/
def CreatedIn (T : Set Int) (s : Store) : Prop := ∀ r ∈ s.slots, ∃ t ∈ T, r.createdAt = some t

namespace CreatedIn
variable {T U : Set Int}

theorem mono (h : s.CreatedIn T) (hTU : T ⊆ U) : s.CreatedIn U := fun r hr => by
  obtain ⟨t, ht, he⟩ := h r hr
  exact ⟨t, hTU ht, he⟩

theorem changeRows (h : s.CreatedIn T)
    (hf : ∀ r ∈ s.slots, p r = true → (f r).createdAt = r.createdAt ∨ ∃ t ∈ T, (f r).createdAt = some t) :
    (s.changeRows p f).CreatedIn T := by
  intro r hr
  obtain ⟨r₀, hr₀, rfl⟩ := mem_changeRows.mp hr
  obtain ⟨t, ht, he⟩ := h r₀ hr₀
  by_cases hp : p r₀ = true
  · rw [if_pos hp]
    rcases hf r₀ hr₀ hp with hsame | hnew
    · exact ⟨t, ht, hsame.trans he⟩
    · exact hnew
  · rw [if_neg hp]
    exact ⟨t, ht, he⟩

theorem retire (h : s.CreatedIn T) : (s.changeRows p Row.retired).CreatedIn T :=
  h.changeRows fun _ _ _ => Or.inl rfl

theorem filled (h : s.CreatedIn T) (hnow : now ∈ T) : (s.filled c now x).CreatedIn T := by
  unfold Store.filled
  cases ht : s.target c with
  | some r =>
    rw [claim_of_some ht]
    exact h.changeRows fun r _ _ => Or.inr ⟨now, hnow, fill_createdAt r⟩
  | none =>
    rw [claim_of_none ht]
    intro r hr
    rcases mem_setRow hr with ⟨hr, hne⟩ | ⟨r₀, -, -, rfl⟩
    · rcases List.mem_append.mp hr with hr | hr
      · exact h r hr
      · exact absurd (congrArg Row.id (List.mem_singleton.mp hr)) hne
    · exact ⟨now, hnow, fill_createdAt r₀⟩

theorem rewritten (h : s.CreatedIn T) (hnow : now ∈ T) {before : Row} {actor : Actor} :
    (s.rewritten now before x actor).CreatedIn T := by
  refine h.changeRows fun r _ _ => ?_
  cases ha : r.isActive
  · exact Or.inr ⟨now, hnow, by simp [ha]⟩
  · exact Or.inl (by simp [ha])

end CreatedIn

/-- Every time of creation of a row, and every time in the log, is one of `T`. -/
structure TimesIn (T : Set Int) (s : Store) : Prop where
  rows : ∀ r ∈ s.slots, ∃ t ∈ T, r.createdAt = some t
  log : ∀ e ∈ s.log, e.time ∈ T

namespace TimesIn
variable {T U : Set Int}

theorem created (h : s.TimesIn T) : s.CreatedIn T := h.rows

theorem mono (h : s.TimesIn T) (hTU : T ⊆ U) : s.TimesIn U where
  rows := h.created.mono hTU
  log e he := hTU (h.log e he)

theorem retire (h : s.TimesIn T) : (s.changeRows p Row.retired).TimesIn T where
  rows := h.created.retire
  log := h.log

theorem filled (h : s.TimesIn T) : (s.filled c now x).TimesIn (insert now T) where
  rows := (h.created.mono (Set.subset_insert now T)).filled (Set.mem_insert _ _)
  log := by
    rw [filled_log]
    exact fun e he => Set.mem_insert_of_mem _ (h.log e he)

theorem rewritten (h : s.TimesIn T) {before : Row} {actor : Actor} :
    (s.rewritten now before x actor).TimesIn (insert now T) where
  rows := (h.created.mono (Set.subset_insert now T)).rewritten (Set.mem_insert _ _)
  log := by
    intro e he
    rcases List.mem_append.mp he with he | he
    · exact Set.mem_insert_of_mem _ (h.log e he)
    · obtain rfl := List.mem_singleton.mp he
      exact Set.mem_insert _ _

end TimesIn

end Store

end Pasteboard
