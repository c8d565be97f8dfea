import Pasteboard.Proofs.Listing.Cut
import Pasteboard.Proofs.Log.Undo
import Pasteboard.Proofs.Search.Expression
import Pasteboard.Proofs.Slots.Erasure
/-!
A search is a filtered listing.

Whichever engine answers, what it finds are the records of the listing with an active text that the engine finds, in the
order of the listing and cut like it. The full-text index answers for the rows because it follows them. What an engine
does not take, though it is a query, it refuses as soon as there is an active text to compare with: the index a query
with a NUL character, the substring search one that makes its pattern too long.
-/

namespace Pasteboard
open Board Search Store

/-- Whether an engine finds a query in a text. -/
def Engine.finds (raw content : String) : Engine → Bool
  | .fullText =>
    match expression raw with
    | .ok e => match Alternatives.read e with
      | .ok alternatives => alternatives.holds content
      | .error _ => false
    | .error _ => false
  | .substring => like (containing raw) content

/-- What an engine takes of the queries. -/
def Engine.Takes (raw : String) : Engine → Prop
  | .fullText => '\x00' ∉ (queryText raw).toList
  | .substring => (containing raw).utf8ByteSize ≤ maxPatternBytes

instance Engine.decidableTakes (raw : String) (engine : Engine) : Decidable (engine.Takes raw) :=
  match engine with
  | .fullText => inferInstanceAs (Decidable ('\x00' ∉ (queryText raw).toList))
  | .substring => inferInstanceAs (Decidable ((containing raw).utf8ByteSize ≤ maxPatternBytes))

/-- The fault of the database when an engine does not take a query. -/
def Engine.fault : Engine → DatabaseFault
  | .fullText => .unterminatedString
  | .substring => .patternTooLong

/-- The text of a record, if it is an active text. -/
def Record.text? (r : Record) : Option String :=
  match r.isActive, r.body with
  | true, .text content => some content
  | _, _ => none

/-- Whether an engine finds a record. -/
def Record.foundBy (engine : Engine) (raw : String) (r : Record) : Bool := r.text?.any (engine.finds raw)

/-- A filter that lets nothing but active texts through. -/
def Filter.textOnly (f : Filter) : Filter := { f with includeInactive := false, isFile := some false }

variable {b : Board} {s : Store} {f : Filter} {position : Position} {rows : List Row} {r : Row} {n : Nat}
  {raw e content : String} {fallback : Bool} {engine : Engine} {x : Index} {p : String → Bool}

/-! ### Active texts -/

theorem Row.record_text? (h : r.check = true) : r.record.text? = if r.isActiveText then r.content else none := by
  rcases Row.check_cases h with ⟨hact, -⟩ | ⟨content, hact, hfile, hcontent, -⟩ | ⟨_, _, _, hact, hfile, -⟩
  · simp [Record.text?, Row.record, Row.isActiveText, hact]
  · simp [Record.text?, Row.record, Row.body, Row.isActiveText, hact, hfile, hcontent]
  · simp [Record.text?, Row.record, Row.body, Row.isActiveText, hact, hfile]

theorem Filter.textOnly_selects_iff (hf : f.isFile ≠ some true) :
    f.textOnly.predicate.selects r = true ↔ f.predicate.selects r = true ∧ r.isActiveText = true := by
  rw [selects_iff, selects_iff, Row.isActiveText, Bool.and_eq_true, Bool.not_eq_true', textOnly]
  have hkind : (∀ isFile ∈ f.isFile, r.isFile = isFile) ∧ r.isFile = false ↔ r.isFile = false := by
    refine and_iff_right_of_imp fun hfile isFile hmem => ?_
    cases isFile with
    | false => exact hfile
    | true => exact absurd hmem hf
  simp only [Option.mem_some_iff, forall_eq']
  tauto

theorem Filter.not_text_of_file (hf : f.isFile = some true) (h : f.predicate.selects r = true) :
    r.isActiveText = false := by
  have hfile : r.isFile = true := (selects_iff.mp h).2.1 true hf
  simp [Row.isActiveText, hfile]

/-! ### Engines -/

theorem Search.Index.mem_matching {i : Int} :
    i ∈ x.matching p ↔ ∃ content, p content = true ∧ ⟨i, some content⟩ ∈ x.entries := by
  rw [matching, List.mem_filterMap]
  constructor
  · rintro ⟨⟨j, _ | content⟩, hmem, hp⟩
    · cases hp
    · obtain ⟨htrue, rfl⟩ : p content = true ∧ j = i := by simpa using hp
      exact ⟨content, htrue, hmem⟩
  · rintro ⟨content, hp, hmem⟩
    exact ⟨_, hmem, by simp [hp]⟩

/-- The index is asked for ids, and answers for the text of the row with the id. -/
theorem Search.Index.Holds.contains_matching (h : x.Holds (textEntries rows)) (hn : (rows.map (·.id)).Nodup)
    (hr : r ∈ rows) (htext : r.isActiveText = true) (hcontent : r.content = some content) :
    (x.matching p).contains r.id = p content := by
  have hentry (t : String) : (⟨r.id, some t⟩ : Entry) ∈ x.entries ↔ t = content := by
    have hmem : (⟨r.id, some t⟩ : Entry) ∈ x.entries ↔ (⟨r.id, some t⟩ : Entry) ∈ textEntries rows := by
      rw [← h.entries.mem_iff, List.mem_filter]
      simp
    rw [hmem, mem_textEntries]
    constructor
    · rintro ⟨q, hq, -, he⟩
      obtain rfl := eq_of_id_eq hn hq hr (congrArg Entry.id he)
      exact Option.some.inj ((congrArg Entry.text he).symm.trans hcontent)
    · rintro rfl
      exact ⟨r, hr, htext, by rw [entryOf, hcontent]⟩
  rw [Bool.eq_iff_iff, List.contains_iff_mem, mem_matching]
  simp [hentry]

theorem Row.foundBy_eq (h : r.check = true) (htext : r.isActiveText = true) (hcontent : r.content = some content) :
    r.record.foundBy engine raw = engine.finds raw content := by
  rw [Record.foundBy, Row.record_text? h, if_pos htext, hcontent, Option.any_some]

/-- What becomes of the test that an engine makes of rows: it finds those that the engine finds, or the query is
refused, which needs a row. -/
def Engine.Tests (engine : Engine) (raw : String) (rows : List Row) (test : Except StoreError (Row → Bool)) : Prop :=
  ((engine.Takes raw ∨ rows = []) ∧ ∃ found, test = .ok found ∧ ∀ r ∈ rows, found r = r.record.foundBy engine raw) ∨
  (¬(engine.Takes raw ∨ rows = []) ∧ test = .error (.database engine.fault))

namespace Store.Indexed
variable (h : s.Indexed) (hrows : ∀ r ∈ rows, r ∈ s.slots ∧ r.isActiveText = true)
include h hrows

theorem exists_content (raw : String) (hr : r ∈ rows) : ∃ content, r.content = some content ∧
    ∀ engine : Engine, r.record.foundBy engine raw = engine.finds raw content := by
  obtain ⟨hmem, htext⟩ := hrows r hr
  have hcheck := h.sound.check r hmem
  obtain ⟨content, hcontent⟩ := Row.exists_content hcheck htext
  exact ⟨content, hcontent, fun engine => Row.foundBy_eq hcheck htext hcontent⟩

theorem indexTest_tests (hindex : s.index = some x) (he : expression raw = .ok e) :
    Engine.Tests .fullText raw rows (indexTest x e rows) := by
  rcases read_expression he with ⟨hnul, hread⟩ | ⟨hnul, alternatives, hread⟩
  · have htakes : ¬Engine.Takes raw .fullText := not_not.mpr hnul
    rw [indexTest, hread]
    cases rows with
    | nil => exact Or.inl ⟨Or.inr rfl, _, rfl, fun _ hr => absurd hr List.not_mem_nil⟩
    | cons r rows => exact Or.inr ⟨by simp [htakes], rfl⟩
  · rw [indexTest, hread]
    refine Or.inl ⟨Or.inl hnul, _, rfl, fun r hr => ?_⟩
    obtain ⟨content, hcontent, hfound⟩ := h.exists_content hrows raw hr
    rw [(h.index x hindex).contains_matching h.sound.nodup (hrows r hr).1 (hrows r hr).2 hcontent, hfound]
    simp only [Engine.finds, he, hread]

theorem substringTest_tests : Engine.Tests .substring raw rows (substringTest raw rows) := by
  rw [substringTest]
  by_cases htakes : Engine.Takes raw .substring
  · have hfits : ¬maxPatternBytes < (containing raw).utf8ByteSize := Nat.not_lt.mpr htakes
    refine Or.inl ⟨Or.inl htakes, _, if_neg (by simp [hfits]), fun r hr => ?_⟩
    obtain ⟨content, hcontent, hfound⟩ := h.exists_content hrows raw hr
    simp only [hcontent, hfound, Engine.finds]
  · have hlong : maxPatternBytes < (containing raw).utf8ByteSize := Nat.lt_of_not_le htakes
    cases rows with
    | nil => exact Or.inl ⟨Or.inr rfl, _, if_neg (by simp), fun _ hr => absurd hr List.not_mem_nil⟩
    | cons r rows => exact Or.inr ⟨by simp [htakes], if_pos (by simp [hlong])⟩

theorem tests (he : expression raw = .ok e) (hengine : engine? fallback s.index = .ok engine) :
    engine.Tests raw rows (match s.index with
      | some index => indexTest index e rows
      | none => substringTest raw rows) := by
  cases hindex : s.index with
  | some x =>
    rw [hindex] at hengine
    cases hengine
    exact h.indexTest_tests hrows hindex he
  | none =>
    rw [hindex] at hengine
    cases fallback with
    | false => cases hengine
    | true =>
      cases hengine
      exact h.substringTest_tests hrows

end Store.Indexed

/-! ### Answers -/

/-- The answer of an engine: what it finds in a listing, cut to a page. -/
def Engine.answer (engine : Engine) (raw : String) (position : Position) (o : Order) (n : Nat) (all : List Record) :
    Except StoreError Found :=
  if engine.Takes raw ∨ ∀ r ∈ all, r.text? = none then
    .ok ⟨position.cut o n (all.filter (·.foundBy engine raw)), (all.filter (·.foundBy engine raw)).length, engine⟩
  else .error (.database engine.fault)

theorem Record.not_foundBy {record : Record} (h : record.text? = none) : record.foundBy engine raw = false := by
  rw [foundBy, h, Option.any_none]

namespace Store.Sound
variable (h : s.Sound)
include h

theorem no_text_of_file (hf : f.isFile = some true) : ∀ record ∈ s.listing f, record.text? = none := by
  intro record hrecord
  obtain ⟨r, hr, hsel, rfl⟩ := mem_listing.mp hrecord
  rw [Row.record_text? (h.check r hr), Filter.not_text_of_file hf hsel, if_neg Bool.false_ne_true]

theorem no_text_iff (hf : f.isFile ≠ some true) :
    (∀ record ∈ s.listing f, record.text? = none) ↔ s.slots.filter f.textOnly.predicate.selects = [] := by
  rw [List.filter_eq_nil_iff]
  constructor
  · intro hnone r hr hsel
    obtain ⟨hsel, htext⟩ := (Filter.textOnly_selects_iff hf).mp hsel
    obtain ⟨content, hcontent⟩ := Row.exists_content (h.check r hr) htext
    have htext? := hnone r.record (mem_listing.mpr ⟨r, hr, hsel, rfl⟩)
    rw [Row.record_text? (h.check r hr), if_pos htext, hcontent] at htext?
    cases htext?
  · intro hempty record hrecord
    obtain ⟨r, hr, hsel, rfl⟩ := mem_listing.mp hrecord
    have htext : ¬r.isActiveText = true := fun htext => hempty r hr ((Filter.textOnly_selects_iff hf).mpr ⟨hsel, htext⟩)
    rw [Row.record_text? (h.check r hr), if_neg htext]

/-- What is found in a listing are the texts of which a test holds that agrees with the engine on them. -/
theorem filter_listing (hf : f.isFile ≠ some true) {found : Row → Bool}
    (hfound : ∀ r ∈ s.slots.filter f.textOnly.predicate.selects, found r = r.record.foundBy engine raw) :
    (s.listing f).filter (·.foundBy engine raw) = ((f.textOnly.rows s.slots).filter found).map Row.record := by
  have hids (p : Row → Bool) : ((s.slots.filter p).map (·.id)).Nodup := h.nodup.sublist (List.filter_sublist.map _)
  have hrows : (s.slots.filter f.predicate.selects).filter (fun r => r.record.foundBy engine raw) =
      (s.slots.filter f.textOnly.predicate.selects).filter found := by
    rw [List.filter_filter, List.filter_filter]
    refine List.filter_congr fun r hr => ?_
    rw [Bool.eq_iff_iff, Bool.and_eq_true, Bool.and_eq_true, Filter.textOnly_selects_iff hf]
    by_cases htext : r.isActiveText = true
    · by_cases hsel : f.predicate.selects r = true
      · have hmem := List.mem_filter.mpr ⟨hr, (Filter.textOnly_selects_iff hf).mpr ⟨hsel, htext⟩⟩
        rw [hfound r hmem]
        simp [hsel, htext]
      · simp [hsel]
    · have hnone : r.record.text? = none := by rw [Row.record_text? (h.check r hr), if_neg htext]
      simp [Record.not_foundBy hnone, htext]
  rw [listing, List.filter_map, Filter.rows, Filter.rows, ← Order.sort_filter (hids _), ← Order.sort_filter (hids _),
    ← hrows]
  rfl

end Store.Sound

namespace Store

theorem search_of_file (he : expression raw = .ok e) (hengine : engine? fallback s.index = .ok engine)
    (hf : f.isFile = some true) : s.search fallback raw n f position = .ok ⟨[], 0, engine⟩ := by
  rw [Store.search, he, hengine, hf]
  rfl

theorem search_of_text (he : expression raw = .ok e) (hengine : engine? fallback s.index = .ok engine)
    (hf : f.isFile ≠ some true) : s.search fallback raw n f position =
      (match s.index with
        | some index => indexTest index e (s.slots.filter f.textOnly.predicate.selects)
        | none => substringTest raw (s.slots.filter f.textOnly.predicate.selects)).map fun found =>
      ⟨(f.textOnly.page found n position s.slots).map Row.record,
        ((s.slots.filter f.textOnly.predicate.selects).filter found).length, engine⟩ := by
  rw [Store.search, he, hengine]
  simp only [bind, Except.bind, pure, Except.pure, if_neg hf, Except.map, Filter.textOnly]
  cases s.index <;> rfl

/-- Where an engine answers, it answers for the listing. -/
theorem search_eq (h : s.Indexed) (htimed : ∀ r ∈ s.slots, ∃ t, r.createdAt = some t) (he : expression raw = .ok e)
    (hengine : engine? fallback s.index = .ok engine) :
    s.search fallback raw n f position = engine.answer raw position f.order n (s.listing f) := by
  by_cases hf : f.isFile = some true
  · have hnone := h.sound.no_text_of_file hf
    have hempty : (s.listing f).filter (·.foundBy engine raw) = [] :=
      List.filter_eq_nil_iff.mpr fun record hrecord => by simp [Record.not_foundBy (hnone record hrecord)]
    rw [search_of_file he hengine hf, Engine.answer, if_pos (Or.inr hnone), hempty, Position.cut]
    simp
  · have hrows : ∀ r ∈ s.slots.filter f.textOnly.predicate.selects, r ∈ s.slots ∧ r.isActiveText = true := fun r hr =>
      ⟨(List.mem_filter.mp hr).1, ((Filter.textOnly_selects_iff hf).mp (List.mem_filter.mp hr).2).2⟩
    have htests := h.tests hrows he hengine
    rw [Engine.Tests, ← h.sound.no_text_iff hf] at htests
    rw [search_of_text he hengine hf, Engine.answer]
    rcases htests with ⟨htakes, found, htest, hfound⟩ | ⟨htakes, htest⟩
    · have hlength : ((s.slots.filter f.textOnly.predicate.selects).filter found).length =
          ((f.textOnly.rows s.slots).filter found).length :=
        (((Order.sort_perm f.order _).filter found).length_eq).symm
      rw [if_pos htakes, htest, h.sound.filter_listing hf hfound, List.length_map, Except.map, hlength,
        Filter.page_eq_cut h.sound.nodup htimed]
      rfl
    · rw [if_neg htakes, htest]
      rfl

theorem search_refused {fault : QueryFault} (h : expression raw = .error fault) :
    s.search fallback raw n f position = .error (.badQuery fault.reason) := by
  rw [Store.search, h]
  rfl

theorem search_unavailable {error : StoreError} (he : expression raw = .ok e)
    (hengine : engine? fallback s.index = .error error) : s.search fallback raw n f position = .error error := by
  rw [Store.search, he, hengine]
  rfl

theorem engine?_error {error : StoreError} {index : Option Index} (h : engine? fallback index = .error error) :
    error = .searchUnavailable := by
  cases index <;> cases fallback <;> cases h
  rfl

/-- A search blames the query only if it is none. -/
theorem search_not_blamed (h : s.Indexed) (htimed : ∀ r ∈ s.slots, ∃ t, r.createdAt = some t)
    (he : expression raw = .ok e) (reason : String) :
    s.search fallback raw n f position ≠ .error (.badQuery reason) := by
  cases hengine : engine? fallback s.index with
  | error error =>
    rw [search_unavailable he hengine, engine?_error hengine]
    nofun
  | ok engine =>
    rw [search_eq h htimed he hengine, Engine.answer]
    split <;> nofun

end Store

namespace Board

theorem search_ready (hs : b.database = .ready s) :
    ((search fallback raw n f position).on b).1 = s.search fallback raw n f position := by
  have hget : (get : Action Board).on b = (.ok b, b) := rfl
  rw [search, Action.on_bind_of_ok hget, hs]
  rfl

theorem search_blank (hs : b.database = .blank) : ((search fallback raw n f position).on b).1 =
    (Store.search fallback raw n f position {}).bind fun found =>
      if f.isFile = some true then .ok found else .error (.database (.noTable .slots)) := by
  have hget : (get : Action Board).on b = (.ok b, b) := rfl
  rw [search, Action.on_bind_of_ok hget, hs]
  dsimp only
  rw [Action.on_bind, Action.on_of]
  cases Store.search fallback raw n f position {} with
  | error e => rfl
  | ok found =>
    dsimp only [Except.bind]
    by_cases hfile : f.isFile = some true
    · rw [if_pos hfile, if_pos hfile]
      rfl
    · rw [if_neg hfile, if_neg hfile]
      rfl

theorem search_unopenable {place : String} (hs : b.database = .unopenable place) :
    ((search fallback raw n f position).on b).1 = match expression raw with
      | .ok _ => .error (.cannotOpen place)
      | .error fault => .error (.badQuery fault.reason) := by
  have hget : (get : Action Board).on b = (.ok b, b) := rfl
  rw [search, Action.on_bind_of_ok hget, hs]
  dsimp only
  cases expression raw <;> rfl

theorem Reachable.indexed_ready (h : b.Reachable) (hs : b.database = .ready s) : s.Indexed := store_eq hs ▸ h.indexed

theorem Reachable.timed (h : b.Reachable) (hs : b.database = .ready s) : ∀ r ∈ s.slots, ∃ t, r.createdAt = some t :=
  fun r hr => by
    obtain ⟨t, -, ht⟩ := h.created r (store_eq hs ▸ hr)
    exact ⟨t, ht⟩

theorem search_blamed {fault : QueryFault} (he : expression raw = .error fault) :
    ((search fallback raw n f position).on b).1 = .error (.badQuery fault.reason) := by
  cases hs : b.database with
  | unopenable place => rw [search_unopenable hs, he]
  | blank =>
    rw [search_blank hs, search_refused he]
    rfl
  | ready s => rw [search_ready hs, search_refused he]

theorem Reachable.search_not_blamed (h : b.Reachable) (he : expression raw = .ok e) (reason : String) :
    ((search fallback raw n f position).on b).1 ≠ .error (.badQuery reason) := by
  cases hs : b.database with
  | unopenable place =>
    rw [search_unopenable hs, he]
    nofun
  | blank =>
    have hempty : Store.search fallback raw n f position {} ≠ .error (.badQuery reason) :=
      Store.search_not_blamed Indexed.empty (fun r hr => absurd hr List.not_mem_nil) he reason
    rw [search_blank hs]
    cases hsearch : Store.search fallback raw n f position {} with
    | error error => exact fun hbad => hempty (hsearch.trans hbad)
    | ok found =>
      dsimp only [Except.bind]
      split <;> nofun
  | ready s =>
    rw [search_ready hs]
    exact Store.search_not_blamed (h.indexed_ready hs) (h.timed hs) he reason

/-- A search blames the query if it is none, whatever else there is to blame. -/
theorem Reachable.search_blames_iff (h : b.Reachable) {reason : String} :
    ((search fallback raw n f position).on b).1 = .error (.badQuery reason) ↔
      ∃ fault, expression raw = .error fault ∧ fault.reason = reason := by
  cases he : expression raw with
  | error fault => simp [search_blamed he]
  | ok e => simp [h.search_not_blamed he]

end Board

/-- A search fails for its query if and only if it is none. If it is one and there is an engine, it answers with what
the engine finds in the whole listing, cut to a page, or refuses a query that the engine does not take. -/
theorem search_is_a_filtered_listing (h : b.Reachable) (f : Filter) :
    (∀ fallback raw n position reason, ((Board.search fallback raw n f position).on b).1 = .error (.badQuery reason) ↔
      ∃ fault, expression raw = .error fault ∧ fault.reason = reason) ∧
    ∀ s, b.database = .ready s → ∃ all : List Record,
      (∀ n position, ((Board.list n f position).on b).1 = .ok (position.cut f.order n all)) ∧
      ∀ fallback raw e engine n position, expression raw = .ok e → engine? fallback s.index = .ok engine →
        ((Board.search fallback raw n f position).on b).1 = engine.answer raw position f.order n all ∧
        (f.isFile = some true → ((Board.search fallback raw n f position).on b).1 = .ok ⟨[], 0, engine⟩) := by
  refine ⟨fun fallback raw n position reason => h.search_blames_iff, fun s hs => ⟨s.listing f, ?_, ?_⟩⟩
  · intro n position
    rw [on_list hs, list_eq_cut (h.sound hs).nodup (h.timed hs)]
  · intro fallback raw e engine n position he hengine
    rw [search_ready hs]
    exact ⟨search_eq (h.indexed_ready hs) (h.timed hs) he hengine, search_of_file he hengine⟩

/-- Where one text is stored, a search is answered from the listing. -/
theorem search_is_a_filtered_listing_once : ∃ all : List Record,
    (∀ n position, ((Board.list n {} position).on oneText).1 = .ok (position.cut .desc n all)) ∧
    ((Board.search true "A" 1 {} (.offset 0)).on oneText).1 = Engine.answer .fullText "A" (.offset 0) .desc 1 all := by
  obtain ⟨-, hready⟩ := search_is_a_filtered_listing oneText_reachable {}
  obtain ⟨all, hlist, hsearch⟩ := hready _ oneText_ready
  have he : expression "A" = .ok "\"A\"" := by decide +kernel
  have hanswer := hsearch true "A" "\"A\"" .fullText 1 (.offset 0) he rfl
  exact ⟨all, hlist, hanswer.1⟩

/-- A query with a NUL character is blamed on the database by the index, which cannot read it. -/
theorem search_with_nul_fails : ∃ s, oneText.Reachable ∧ oneText.database = .ready s ∧
    engine? true s.index = .ok .fullText ∧ expression "a\x00" = .ok "\"a\x00\"" ∧
    ((Board.search true "a\x00" 1 {} (.offset 0)).on oneText).1 = .error (.database .unterminatedString) := by
  refine ⟨_, oneText_reachable, oneText_ready, rfl, by decide +kernel, ?_⟩
  rw [search_ready oneText_ready]
  decide +kernel

end Pasteboard
