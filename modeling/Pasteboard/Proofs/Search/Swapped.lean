import Pasteboard.Proofs.Search.Index
/-!
One entry of the index with another text.

A row with another payload of the same kind has the same entry, but for the text. Commands to the index do the same with
either text, as long as no other entry has a text under the id of the row.
-/

namespace Pasteboard

/-- Whether a payload is a file. -/
def Payload.isFile : Payload → Bool
  | .text _ => false
  | .file _ => true

/-- The row, with another payload if it is the active row with an id and is of the kind of the payload. -/
def Row.swapped (id : Int) (y : Payload) (r : Row) : Row :=
  if r.id = id ∧ r.isActive = true ∧ r.isFile = y.isFile then r.withPayload y else r

namespace Search

/-- The entry, with the text of a payload if it is the entry of a text under an id. -/
def Entry.swapped (id : Int) : Payload → Entry → Entry
  | .text content, e => if e.id = id ∧ e.text.isSome = true then ⟨e.id, some content⟩ else e
  | .file _, e => e

/-- The entry that a command adds or removes. -/
def Command.entry : Command → Entry
  | .add e => e
  | .remove e => e

/-- The command with another entry. -/
def Command.map (g : Entry → Entry) : Command → Command
  | .add e => .add (g e)
  | .remove e => .remove (g e)

/-- The index with another text under an id. -/
def Index.swapped (id : Int) (y : Payload) (x : Index) : Index :=
  { x with entries := x.entries.map (Entry.swapped id y) }

end Search

section
variable {id i now : Int} {x y z : Payload} {r old new : Row}

/-! ### Rows -/

theorem Payload.isFile_withPayload (r : Row) (y : Payload) : (r.withPayload y).isFile = y.isFile := by cases y <;> rfl

namespace Row

theorem swapped_of_ne (h : r.id ≠ id) : r.swapped id y = r := if_neg fun hc => h hc.1

theorem swapped_of_inactive (h : r.isActive = false) : r.swapped id y = r :=
  if_neg fun hc => by simp [h] at hc

/-- Another payload changes no column but those of the payload, whose kind stays. -/
theorem swapped_cases (id : Int) (y : Payload) (r : Row) : r.swapped id y = r ∨
    r.swapped id y = r.withPayload y ∧ r.id = id ∧ r.isActive = true ∧ r.isFile = y.isFile := by
  by_cases h : r.id = id ∧ r.isActive = true ∧ r.isFile = y.isFile
  · exact Or.inr ⟨if_pos h, h⟩
  · exact Or.inl (if_neg h)

@[simp] theorem swapped_id : (r.swapped id y).id = r.id := by
  rcases swapped_cases id y r with h | ⟨h, -⟩ <;> rw [h]
  cases y <;> rfl

@[simp] theorem swapped_isActive : (r.swapped id y).isActive = r.isActive := by
  rcases swapped_cases id y r with h | ⟨h, -⟩ <;> rw [h]
  cases y <;> rfl

@[simp] theorem swapped_isFile : (r.swapped id y).isFile = r.isFile := by
  rcases swapped_cases id y r with h | ⟨h, -, -, hkind⟩ <;> rw [h]
  rw [hkind, Payload.isFile_withPayload]

@[simp] theorem swapped_createdAt : (r.swapped id y).createdAt = r.createdAt := by
  rcases swapped_cases id y r with h | ⟨h, -⟩ <;> rw [h]
  cases y <;> rfl

@[simp] theorem swapped_isActiveText : (r.swapped id y).isActiveText = r.isActiveText := by
  rw [isActiveText, swapped_isActive, swapped_isFile, isActiveText]

@[simp] theorem swapped_isActiveFile : (r.swapped id y).isActiveFile = r.isActiveFile := by
  rw [isActiveFile, swapped_isActive, swapped_isFile, isActiveFile]

/-- A row that is retired has nothing of its payload left but the kind. -/
theorem retired_swapped : (r.swapped id y).retired = r.retired := by
  rcases swapped_cases id y r with h | ⟨h, -, -, hkind⟩ <;> rw [h]
  cases y <;> simpa [retired, withPayload, Payload.isFile] using hkind

theorem swapped_fill (hkind : x.isFile = y.isFile) : (Store.fill now x r).swapped r.id y = Store.fill now y r := by
  have hfile : (Store.fill now x r).isFile = y.isFile := by
    rw [← hkind]
    cases x <;> rfl
  rw [swapped, if_pos ⟨Store.fill_id r, Store.fill_isActive r, hfile⟩]
  cases x <;> cases y <;> rfl

end Row

/-! ### Entries of the index -/

namespace Search
variable {d e e₀ : Entry} {k : Command} {commands : List Command} {l : List Entry} {X : Index}

namespace Entry

theorem swapped_of_not (h : ¬(e.id = id ∧ e.text.isSome = true)) : e.swapped id y = e := by
  cases y with
  | text content => exact if_neg h
  | file upload => rfl

@[simp] theorem swapped_id : (e.swapped id y).id = e.id := by
  cases y with
  | text content => by_cases h : e.id = id ∧ e.text.isSome = true <;> simp [swapped, h]
  | file upload => rfl

@[simp] theorem swapped_isSome : (e.swapped id y).text.isSome = e.text.isSome := by
  cases y with
  | text content => by_cases h : e.id = id ∧ e.text.isSome = true <;> simp [swapped, h]
  | file upload => rfl

/-- Where no other text is entered under the id, entries that differ are still told apart. -/
theorem eq_of_swapped (hd : d.id = id → d.text.isSome = true → d = e₀) (he : e.id = id → e = e₀)
    (h : d.swapped id y = e.swapped id y) : d = e := by
  have hid : d.id = e.id := by simpa using congrArg Entry.id h
  have htext : d.text.isSome = e.text.isSome := by simpa using congrArg (·.text.isSome) h
  by_cases hc : d.id = id ∧ d.text.isSome = true
  · rw [hd hc.1 hc.2, he (hid ▸ hc.1)]
  · rwa [swapped_of_not hc, swapped_of_not (hid ▸ htext ▸ hc)] at h

end Entry

/-- The entry of a row with another payload. -/
theorem entryOf_swapped (hr : r.check = true) (htext : r.isActiveText = true) :
    entryOf (r.swapped id y) = (entryOf r).swapped id y := by
  rcases Row.check_cases hr with ⟨hact, -⟩ | ⟨content, hact, hfile, hcontent, -⟩ | ⟨_, _, _, hact, hfile, -⟩
  · simp [Row.isActiveText, hact] at htext
  · cases y <;> by_cases hid : r.id = id <;>
      simp [entryOf, Row.swapped, Entry.swapped, Row.withPayload, Payload.isFile, hid, hact, hfile, hcontent]
  · simp [Row.isActiveText, hact, hfile] at htext

theorem updateCommands_swapped (ho : old.check = true) (hn : new.check = true) :
    updateCommands (old.swapped id y) (new.swapped id y) =
      (updateCommands old new).map (Command.map (Entry.swapped id y)) := by
  have hone : ∀ r : Row, r.check = true →
      textEntries [r.swapped id y] = (textEntries [r]).map (Entry.swapped id y) := by
    intro r hr
    cases htext : r.isActiveText with
    | false => simp [textEntries, htext]
    | true => simp [textEntries, htext, entryOf_swapped hr htext]
  rw [updateCommands_eq, updateCommands_eq, hone old ho, hone new hn, List.map_append, List.map_map, List.map_map,
    List.map_map, List.map_map]
  rfl

theorem mem_updateCommands (h : k ∈ updateCommands old new) :
    (old.isActiveText = true ∧ k.entry = entryOf old) ∨ (new.isActiveText = true ∧ k.entry = entryOf new) := by
  unfold updateCommands at h
  rcases List.mem_append.mp h with h | h
  · cases htext : old.isActiveText with
    | false => simp [htext] at h
    | true =>
      rw [if_pos htext, List.mem_singleton] at h
      exact Or.inl ⟨rfl, h ▸ rfl⟩
  · cases htext : new.isActiveText with
    | false => simp [htext] at h
    | true =>
      rw [if_pos htext, List.mem_singleton] at h
      exact Or.inr ⟨rfl, h ▸ rfl⟩

/-- Removing an entry from a list and renaming both, where no other entry gets the same name. -/
theorem map_erase_of_eq {g : Entry → Entry} (h : ∀ d ∈ l, g d = g e → d = e) :
    (l.erase e).map g = (l.map g).erase (g e) := by
  induction l with
  | nil => rfl
  | cons d l ih =>
    have hrest := ih fun d hd => h d (List.mem_cons_of_mem _ hd)
    by_cases hd : d = e
    · subst hd
      simp
    · have hne : ¬g d = g e := fun he => hd (h d List.mem_cons_self he)
      rw [List.erase_cons_tail (by simpa using hd), List.map_cons, List.map_cons,
        List.erase_cons_tail (by simpa using hne), hrest]

namespace Index

theorem mem_apply (h : d ∈ (X.apply k).entries) : d ∈ X.entries ∨ d = k.entry := by
  cases k with
  | add e =>
    rcases List.mem_append.mp h with h | h
    · exact Or.inl h
    · exact Or.inr (List.mem_singleton.mp h)
  | remove e =>
    unfold apply at h
    dsimp only at h
    by_cases hmem : X.entries.contains e = true
    · rw [if_pos hmem] at h
      exact Or.inl (List.mem_of_mem_erase h)
    · rw [if_neg hmem] at h
      exact Or.inl h

theorem apply_swapped (hd : ∀ d ∈ X.entries, d.id = id → d.text.isSome = true → d = e₀)
    (hk : k.entry.id = id → k.entry = e₀) :
    (X.apply k).swapped id y = (X.swapped id y).apply (k.map (Entry.swapped id y)) := by
  cases k with
  | add e => simp [apply, swapped, Command.map]
  | remove e =>
    have hinj : ∀ d ∈ X.entries, d.swapped id y = e.swapped id y → d = e :=
      fun d hmem => Entry.eq_of_swapped (hd d hmem) hk
    have hmem : (X.entries.map (Entry.swapped id y)).contains (e.swapped id y) = X.entries.contains e := by
      rw [Bool.eq_iff_iff, List.contains_iff_mem, List.contains_iff_mem, List.mem_map]
      constructor
      · rintro ⟨d, hd, he⟩
        exact hinj d hd he ▸ hd
      · exact fun he => ⟨e, he, rfl⟩
    unfold apply Command.map swapped
    dsimp only
    rw [hmem]
    cases X.entries.contains e with
    | false => rfl
    | true => simp only [if_true, map_erase_of_eq hinj]

/-- Commands with another text under an id, where all commands and entries under it have the same text. -/
theorem applyAll_swapped (hd : ∀ d ∈ X.entries, d.id = id → d.text.isSome = true → d = e₀)
    (hk : ∀ k ∈ commands, k.entry.id = id → k.entry = e₀) :
    (X.applyAll commands).swapped id y =
      (X.swapped id y).applyAll (commands.map (Command.map (Entry.swapped id y))) := by
  induction commands generalizing X with
  | nil => rfl
  | cons k commands ih =>
    have hfirst := hk k List.mem_cons_self
    have hrest : ∀ d ∈ (X.apply k).entries, d.id = id → d.text.isSome = true → d = e₀ := by
      intro d hmem hid htext
      rcases mem_apply hmem with hmem | rfl
      · exact hd d hmem hid htext
      · exact hfirst hid
    rw [List.map_cons]
    show ((X.apply k).applyAll commands).swapped id y = ((X.swapped id y).apply _).applyAll _
    rw [← apply_swapped hd hfirst]
    exact ih hrest fun k hk' => hk k (List.mem_cons_of_mem _ hk')

end Index

end Search

end

end Pasteboard
