import Pasteboard.Proofs.Slots.Rows
/-!
The text that a restoration puts back.

It is the text before the latest logged replacement of a text. An entry that is later than all
others takes over, and among entries of one time the one with the greatest id. So with a clock that does
not go back a replacement saves the text that it overwrites.
-/

namespace Pasteboard

/-- The text that a row shows is that of its payload. -/
theorem textOf_eq {r : Row} (h : r.check = true) :
    LogEntry.textOf r = if r.isActive then LogEntry.textIn r.payload else none := by
  rcases Row.check_cases h with ⟨hact, -⟩ | ⟨content, hact, hfile, hcontent, -⟩ | ⟨_, _, _, hact, hfile, -⟩
  · simp [LogEntry.textOf, Row.isActiveText, hact]
  · simp [LogEntry.textOf, Row.isActiveText, Row.payload, LogEntry.textIn, hact, hfile, hcontent]
  · simp [LogEntry.textOf, Row.isActiveText, Row.payload, LogEntry.textIn, hact, hfile]

namespace Store
variable {s t : Store} {id now : Int} {before : Row} {x : Payload} {actor : Actor} {e : LogEntry}

/-- The later one of the entry so far and another entry. -/
def laterOf (best : Option LogEntry) (e : LogEntry) : Option LogEntry :=
  match best with
  | none => some e
  | some b => if laterEntry e b then some e else some b

/-- The entries for replacements of a text under an id. -/
def overwrites (id : Int) (s : Store) : List LogEntry :=
  s.log.filter fun e => e.slotId == id && e.contentBefore.isSome

theorem snapshot?_eq : s.snapshot? id = ((s.overwrites id).foldl laterOf none).bind (·.contentBefore) := rfl

theorem snapshot?_congr (h : t.log = s.log) : t.snapshot? id = s.snapshot? id := by
  simp only [snapshot?_eq, overwrites, h]

theorem mem_of_foldl_laterOf {entries : List LogEntry} {best : Option LogEntry}
    (h : entries.foldl laterOf best = some e) : e ∈ entries ∨ best = some e := by
  induction entries generalizing best with
  | nil => exact Or.inr h
  | cons d entries ih =>
    rcases ih h with hmem | hbest
    · exact Or.inl (List.mem_cons_of_mem _ hmem)
    · unfold laterOf at hbest
      split at hbest
      · exact Or.inl (Option.some.inj hbest ▸ List.mem_cons_self)
      · split at hbest
        · exact Or.inl (Option.some.inj hbest ▸ List.mem_cons_self)
        · exact Or.inr hbest

/-- The saved text is that of an entry for the slot. -/
theorem mem_of_snapshot? {content : String} (h : s.snapshot? id = some content) :
    ∃ e ∈ s.log, e.slotId = id ∧ e.contentBefore = some content := by
  rw [snapshot?_eq, Option.bind_eq_some_iff] at h
  obtain ⟨e, hlatest, hcontent⟩ := h
  obtain ⟨hmem, hsel⟩ := List.mem_filter.mp ((mem_of_foldl_laterOf hlatest).resolve_right nofun)
  rw [Bool.and_eq_true, beq_iff_eq] at hsel
  exact ⟨e, hmem, hsel.1, hcontent⟩

/-- An entry that is later than all others is the latest. -/
theorem foldl_laterOf_append {entries : List LogEntry} (h : ∀ d ∈ entries, laterEntry e d = true) :
    (entries ++ [e]).foldl laterOf none = some e := by
  rw [List.foldl_append, List.foldl_cons, List.foldl_nil]
  cases hbest : entries.foldl laterOf none with
  | none => rfl
  | some b => exact if_pos (h b ((mem_of_foldl_laterOf hbest).resolve_right nofun))

/-- A new entry of a time that is not before those of the others is later than all of them, as its id is new. -/
theorem laterEntry_new (h : ∀ d ∈ s.log, d.time ≤ now) : ∀ d ∈ s.log,
    laterEntry (LogEntry.ofReplacement (nextId (s.log.map (·.id))) now before x actor) d = true := by
  intro d hd
  have hid : d.id < nextId (s.log.map (·.id)) := lt_nextId (List.mem_map_of_mem hd)
  have htime := h d hd
  show (decide (d.time < now) || (now == d.time && decide (d.id < nextId (s.log.map (·.id))))) = true
  simp only [Bool.or_eq_true, Bool.and_eq_true, decide_eq_true_eq, beq_iff_eq]
  omega

/-- A replacement saves the text that it overwrites, if it overwrites one. -/
theorem snapshot?_logged (h : ∀ e ∈ s.log, e.time ≤ now) : (s.logged now before x actor).snapshot? id =
    if id = before.id then (LogEntry.textOf before).or (s.snapshot? id) else s.snapshot? id := by
  have hlater : ∀ d ∈ s.overwrites id,
      laterEntry (LogEntry.ofReplacement (nextId (s.log.map (·.id))) now before x actor) d = true :=
    fun d hd => laterEntry_new h d (List.mem_of_mem_filter hd)
  have happend : (s.logged now before x actor).overwrites id = s.overwrites id ++
      [LogEntry.ofReplacement (nextId (s.log.map (·.id))) now before x actor].filter
        fun _ => before.id == id && (LogEntry.textOf before).isSome := List.filter_append ..
  rw [snapshot?_eq, happend]
  by_cases hid : id = before.id
  · cases htext : LogEntry.textOf before with
    | none => simp [snapshot?_eq, hid]
    | some text =>
      have hentry : (LogEntry.ofReplacement (nextId (s.log.map (·.id))) now before x actor).contentBefore = some text :=
        htext
      simp only [hid, beq_self_eq_true, Option.isSome_some, Bool.and_true, List.filter_true]
      rw [foldl_laterOf_append (hid ▸ hlater)]
      simp [hentry]
  · have hne : (before.id == id) = false := by simpa using Ne.symm hid
    simp [hne, hid, snapshot?_eq]

theorem snapshot?_rewritten (h : ∀ e ∈ s.log, e.time ≤ now) : (s.rewritten now before x actor).snapshot? id =
    if id = before.id then (LogEntry.textOf before).or (s.snapshot? id) else s.snapshot? id :=
  snapshot?_logged (s := s.setRow before.id (refill now x)) h

end Store

end Pasteboard
