import Pasteboard.Api.Slots
import Pasteboard.Proofs.Text.Numeral
/-!
A cursor is read back from its text.

The text of a number that is not negative consists of digits, so the first colon of a cursor stands between its two
numbers, and no character of it is blank. Other texts are read as cursors too, with signs and with zeros in front: what
is read depends on the two numbers around the first colon alone.
-/

namespace Pasteboard

open Text

/-! ### Cursors -/

namespace Cursor
variable {c : Cursor}

/-- A cursor that its text denotes: the numbers fit into 64 bits, and are not negative and positive. -/
structure Readable (c : Cursor) : Prop where
  createdAt_nonneg : 0 ≤ c.createdAt
  createdAt_le : c.createdAt ≤ Numeral.int64.high
  id_pos : 0 < c.id
  id_le : c.id ≤ Numeral.int64.high

theorem text_toList (c : Cursor) : c.text.toList = (toString c.createdAt).toList ++ ':' :: (toString c.id).toList := by
  simp [text, String.toList_append]

theorem read_text (h : c.Readable) : Cursor.read c.text = .ok c := by
  have hcolon : ':' ∉ (toString c.createdAt).toList := fun hmem => by
    have := Numeral.isDigit_of_mem_toString h.createdAt_nonneg hmem
    exact absurd this (by decide)
  have hsplit : splitOnce ':' c.text = some (toString c.createdAt, toString c.id) := by
    rw [splitOnce, text_toList, splitAt?_eq hcolon]
    simp
  rw [Cursor.read, hsplit]
  dsimp only
  rw [Numeral.read?_toString h.createdAt_nonneg h.createdAt_le, Numeral.read?_toString h.id_pos.le h.id_le]
  dsimp only
  rw [if_neg (not_lt.mpr h.createdAt_nonneg), if_neg (not_le.mpr h.id_pos)]

/-- The text of a cursor, given as a parameter, is the position after it. -/
theorem positionOf_text (h : c.Readable) : Api.positionOf [("cursor", c.text)] = .ok (.after c) := by
  have hblank : ∀ ch ∈ c.text.toList, isBlank ch = false := by
    intro ch hch
    rw [text_toList] at hch
    rcases List.mem_append.mp hch with hch | hch
    · exact isBlank_of_isDigit (Numeral.isDigit_of_mem_toString h.createdAt_nonneg hch)
    · rcases List.mem_cons.mp hch with rfl | hch
      · rfl
      · exact isBlank_of_isDigit (Numeral.isDigit_of_mem_toString h.id_pos.le hch)
  have hne : c.text ≠ "" := fun hempty => by
    have hlist := congrArg String.toList hempty
    rw [text_toList] at hlist
    simp at hlist
  have hword : Http.Params.word? [("cursor", c.text)] "cursor" = some c.text := by
    simp only [Http.Params.word?, List.lookup_cons_self, Option.bind_some, trimmed?_eq hblank hne]
  have hoffset : Http.Params.word? [("cursor", c.text)] "offset" = none := by
    simp [Http.Params.word?, List.lookup_cons]
  simp only [Api.positionOf, hword, hoffset, read_text h]

/-! ### Texts that are read -/

/-- Two numbers of 64 bits stand around the first colon of a text. -/
def Spells (s : String) (m n : Int) : Prop :=
  ∃ left right, s.toList = left ++ ':' :: right ∧ ':' ∉ left ∧
    (Numeral.Signed left m ∧ Numeral.int64.low ≤ m ∧ m ≤ Numeral.int64.high) ∧
    (Numeral.Signed right n ∧ Numeral.int64.low ≤ n ∧ n ≤ Numeral.int64.high)

variable {s : String} {m n : Int}

theorem read?_int64 : Numeral.read? Numeral.int64 s = some m ↔
    Numeral.Signed s.toList m ∧ Numeral.int64.low ≤ m ∧ m ≤ Numeral.int64.high :=
  Numeral.read?_signed (by decide) (by decide)

theorem spells_iff : Spells s m n ↔ ∃ left right, splitOnce ':' s = some (left, right) ∧
    Numeral.read? Numeral.int64 left = some m ∧ Numeral.read? Numeral.int64 right = some n := by
  simp only [splitOnce_eq_some, read?_int64]
  constructor
  · rintro ⟨left, right, hs, hcolon, hleft, hright⟩
    refine ⟨String.ofList left, String.ofList right, ?_⟩
    simp only [String.toList_ofList]
    exact ⟨⟨hs, hcolon⟩, hleft, hright⟩
  · rintro ⟨left, right, ⟨hs, hcolon⟩, hleft, hright⟩
    exact ⟨left.toList, right.toList, hs, hcolon, hleft, hright⟩

theorem read_spelled (h : Spells s m n) : Cursor.read s =
    if m < 0 then .error .negativeTime else if n ≤ 0 then .error .nonPositiveId else .ok ⟨m, n⟩ := by
  obtain ⟨left, right, hsplit, hleft, hright⟩ := spells_iff.mp h
  rw [Cursor.read, hsplit]
  dsimp only
  rw [hleft, hright]

theorem read_unspelled (h : ∀ m n, ¬Spells s m n) : Cursor.read s = .error .malformed := by
  rw [Cursor.read]
  cases hsplit : splitOnce ':' s with
  | none => rfl
  | some parts =>
    obtain ⟨left, right⟩ := parts
    dsimp only
    cases hleft : Numeral.read? Numeral.int64 left with
    | none => rfl
    | some m =>
      cases hright : Numeral.read? Numeral.int64 right with
      | none => rfl
      | some n => exact absurd (spells_iff.mpr ⟨left, right, hsplit, hleft, hright⟩) (h m n)

/-- What is read in a text, by the numbers that it spells. -/
inductive Outcome (s : String) : Except CursorFault Cursor → Prop
  | malformed (unspelled : ∀ m n, ¬Spells s m n) : Outcome s (.error .malformed)
  | negativeTime {m n : Int} (spelled : Spells s m n) (negative : m < 0) : Outcome s (.error .negativeTime)
  | nonPositiveId {m n : Int} (spelled : Spells s m n) (nonneg : 0 ≤ m) (nonpos : n ≤ 0) :
    Outcome s (.error .nonPositiveId)
  | ok {c : Cursor} (spelled : Spells s c.createdAt c.id) (nonneg : 0 ≤ c.createdAt) (pos : 0 < c.id) :
    Outcome s (.ok c)

theorem read_eq_iff {result : Except CursorFault Cursor} : Cursor.read s = result ↔ Outcome s result := by
  constructor
  · rintro rfl
    by_cases hspelled : ∃ m n, Spells s m n
    · obtain ⟨m, n, h⟩ := hspelled
      rw [read_spelled h]
      by_cases hm : m < 0
      · rw [if_pos hm]
        exact .negativeTime h hm
      · rw [if_neg hm]
        by_cases hn : n ≤ 0
        · rw [if_pos hn]
          exact .nonPositiveId h (not_lt.mp hm) hn
        · rw [if_neg hn]
          exact .ok h (not_lt.mp hm) (not_le.mp hn)
    · have hnone : ∀ m n, ¬Spells s m n := fun m n h => hspelled ⟨m, n, h⟩
      rw [read_unspelled hnone]
      exact .malformed hnone
  · intro houtcome
    cases houtcome with
    | malformed unspelled => exact read_unspelled unspelled
    | negativeTime spelled negative => rw [read_spelled spelled, if_pos negative]
    | nonPositiveId spelled nonneg nonpos => rw [read_spelled spelled, if_neg (not_lt.mpr nonneg), if_pos nonpos]
    | ok spelled nonneg pos => rw [read_spelled spelled, if_neg (not_lt.mpr nonneg), if_neg (not_le.mpr pos)]

theorem read_eq_ok : Cursor.read s = .ok c ↔ Spells s c.createdAt c.id ∧ 0 ≤ c.createdAt ∧ 0 < c.id := by
  rw [read_eq_iff]
  exact ⟨fun | .ok spelled nonneg pos => ⟨spelled, nonneg, pos⟩, fun ⟨spelled, nonneg, pos⟩ => .ok spelled nonneg pos⟩

theorem read_eq_malformed : Cursor.read s = .error .malformed ↔ ∀ m n, ¬Spells s m n := by
  rw [read_eq_iff]
  exact ⟨fun | .malformed unspelled => unspelled, .malformed⟩

theorem read_eq_negativeTime : Cursor.read s = .error .negativeTime ↔ ∃ m n, Spells s m n ∧ m < 0 := by
  rw [read_eq_iff]
  exact ⟨fun | .negativeTime spelled negative => ⟨_, _, spelled, negative⟩,
    fun ⟨_, _, spelled, negative⟩ => .negativeTime spelled negative⟩

theorem read_eq_nonPositiveId : Cursor.read s = .error .nonPositiveId ↔ ∃ m n, Spells s m n ∧ 0 ≤ m ∧ n ≤ 0 := by
  rw [read_eq_iff]
  exact ⟨fun | .nonPositiveId spelled nonneg nonpos => ⟨_, _, spelled, nonneg, nonpos⟩,
    fun ⟨_, _, spelled, nonneg, nonpos⟩ => .nonPositiveId spelled nonneg nonpos⟩

/-- A cursor that was read can be written. -/
theorem readable_of_read (h : Cursor.read s = .ok c) : c.Readable := by
  obtain ⟨⟨left, right, -, -, ⟨-, -, hm⟩, -, -, hn⟩, hpos⟩ := read_eq_ok.mp h
  exact ⟨hpos.1, hm, hpos.2, hn⟩

/-- A text is read as a cursor if and only if two numbers of 64 bits stand around its first colon, of which the first is
not negative and the second is positive, and the cursor has these numbers. Without two such numbers the text is
malformed; otherwise the first number is complained of before the second. Every cursor with numbers of this kind is read
back from its text, and so is every cursor that was read from another text. -/
theorem cursors_are_read_exactly :
    (∀ s c, Cursor.read s = .ok c ↔ Spells s c.createdAt c.id ∧ 0 ≤ c.createdAt ∧ 0 < c.id) ∧
    (∀ s, (Cursor.read s = .error .malformed ↔ ∀ m n, ¬Spells s m n) ∧
      (Cursor.read s = .error .negativeTime ↔ ∃ m n, Spells s m n ∧ m < 0) ∧
      (Cursor.read s = .error .nonPositiveId ↔ ∃ m n, Spells s m n ∧ 0 ≤ m ∧ n ≤ 0)) ∧
    (∀ c : Cursor, c.Readable → Cursor.read c.text = .ok c) ∧
    ∀ s c, Cursor.read s = .ok c → Cursor.read c.text = .ok c :=
  ⟨fun _ _ => read_eq_ok, fun _ => ⟨read_eq_malformed, read_eq_negativeTime, read_eq_nonPositiveId⟩,
    fun _ => read_text, fun _ _ h => read_text (readable_of_read h)⟩

/-- A cursor with a sign and zeros has a shorter text, and is read back from it. -/
theorem cursors_are_read_exactly_with_zeros : Cursor.read "+007:05" = .ok ⟨7, 5⟩ ∧ Cursor.read "7:5" = .ok ⟨7, 5⟩ ∧
    Spells "+007:05" 7 5 := by
  obtain ⟨hok, -, -, hback⟩ := cursors_are_read_exactly
  have hread : Cursor.read "+007:05" = .ok ⟨7, 5⟩ := by decide +kernel
  exact ⟨hread, hback _ _ hread, ((hok _ _).mp hread).1⟩

end Cursor

/-! ### The next page -/

/-- A page that is full has a cursor for the next page, that of its last record. -/
theorem nextCursor_cases {n : Nat} (hn : 0 < n) (records : List Record) :
    (records.length ≠ n ∧ Api.nextCursor n records = none) ∨
      (records.length = n ∧
        ∃ last, records.getLast? = some last ∧ Api.nextCursor n records = some last.cursor.text) := by
  rw [Api.nextCursor]
  by_cases hfull : records.length = n
  · have hne : records ≠ [] := by
      rintro rfl
      exact absurd hfull hn.ne
    rw [if_pos hfull, List.getLast?_eq_some_getLast hne]
    exact Or.inr ⟨hfull, _, rfl, rfl⟩
  · exact Or.inl ⟨hfull, if_neg hfull⟩

end Pasteboard
