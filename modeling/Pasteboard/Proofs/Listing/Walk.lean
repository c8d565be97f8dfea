import Pasteboard.Proofs.Listing.Cursor
import Pasteboard.Proofs.Listing.Page
import Pasteboard.Proofs.Slots.Capacity
/-!
Walks through a listing, page by page, while slots are written.

Each page starts past the cursor that the page before it ended with, read back from its text. Whatever is written
between the pages, the walk shows records strictly in order, and a slot that stays as it is is shown once: by the
page that first reaches its place.
-/

namespace Pasteboard

open Api Board
open Pasteboard.Http
open Text

/-- The rows of slots that a board holds. -/
def Board.rows (b : Board) : List Row :=
  match b.database with
  | .ready s => s.slots
  | _ => []

/-- A page of a walk: the board that was asked for it, and the records that it shows. -/
structure Page where
  board : Board
  records : List Record

/-- The records that a search without a text finds at a position. -/
def pageAt (s : Settings) (n : Nat) (f : Filter) (position : Position) (b : Board) : Except Response (List Record) :=
  ((found s ⟨none, n, f, position⟩).on b).1.mapError storeFailure |>.map (·.1)

/-- A walk from a position: the pages, and whether it came to its end. It follows the cursor of each page as long as
there is one and there are calls to be made before the next page. -/
def walk (s : Settings) (n : Nat) (f : Filter) : Position → Board → List (List (Capacity × SlotCall)) →
    Except Response (List Page × Bool)
  | position, b, [] => do
    let records ← pageAt s n f position b
    return ([⟨b, records⟩], (nextCursor n records).isNone)
  | position, b, calls :: gaps => do
    let records ← pageAt s n f position b
    match nextCursor n records with
    | none => return ([⟨b, records⟩], true)
    | some text =>
      let next ← positionOf [("cursor", text)]
      let (pages, ended) ← walk s n f next (b.after calls) gaps
      return (⟨b, records⟩ :: pages, ended)

variable {b : Board} {t : Store} {first n : Nat} {s : Settings} {f : Filter} {position : Position} {r : Row}

/-! ### Boards that can be walked through -/

/-- A board on which all numbers of cursors fit into 64 bits and are not negative, now and after further calls. -/
structure Walkable (first : Nat) (b : Board) (t : Store) : Prop where
  holding : Holding first b t
  created : t.CreatedIn (Set.Icc 0 Numeral.int64.high)
  few : (t.slots.length : Int) ≤ Numeral.nat32.high
  clock : ∀ i, b.clock.used ≤ i → b.clock.item i ∈ Set.Icc 0 Numeral.int64.high

namespace Walkable

theorem perform (h : Walkable first b t) {c : Capacity} (hc : (c.size : Int) ≤ Numeral.nat32.high) (call : SlotCall) :
    ∃ t', Walkable first ((call.perform c).on b).2 t' := by
  obtain ⟨t', ht'⟩ := h.holding.perform c call
  have hlength := perform_length h.holding ht'
  have hfew := h.few
  refine ⟨t', ht', ?_, by omega, ?_⟩
  · rcases same_or_performed h.holding.ready ht'.ready with rfl | ⟨v, -, hp⟩
    · exact h.created
    · exact hp.createdIn ht'.ready h.created (h.clock _ (Nat.le_refl _))
  · intro i hi
    rcases perform_clock h.holding.ready c call with hclock | hclock <;> rw [hclock] at hi ⊢
    · exact h.clock i hi
    · exact h.clock i (Nat.le_of_succ_le hi)

theorem after (h : Walkable first b t) {calls : List (Capacity × SlotCall)}
    (hcalls : ∀ x ∈ calls, (x.1.size : Int) ≤ Numeral.nat32.high) : ∃ t', Walkable first (b.after calls) t' := by
  induction calls generalizing b t with
  | nil => exact ⟨t, h⟩
  | cons call calls ih =>
    obtain ⟨t', ht'⟩ := h.perform (hcalls call List.mem_cons_self) call.2
    exact ih ht' fun x hx => hcalls x (List.mem_cons_of_mem _ hx)

theorem timed (h : Walkable first b t) : ∀ r ∈ t.slots, ∃ time, r.createdAt = some time := fun r hr => by
  obtain ⟨time, -, htime⟩ := h.created r hr
  exact ⟨time, htime⟩

theorem readable (h : Walkable first b t) (hr : r ∈ t.slots) : r.cursor.Readable := by
  obtain ⟨time, ⟨hlow, hhigh⟩, htime⟩ := h.created r hr
  obtain ⟨hone, hlast⟩ := h.holding.sound.id_bounds hr
  have hfew := h.few
  have hcursor : r.cursor = ⟨time, r.id⟩ := by simp [Row.cursor, Record.cursor, Row.record, htime]
  rw [hcursor]
  refine ⟨hlow, hhigh, by show 0 < r.id; omega, ?_⟩
  show r.id ≤ Numeral.int64.high
  exact (hlast.trans hfew).trans (by decide)

theorem rows_eq (h : Walkable first b t) : b.rows = t.slots := by
  rw [Board.rows, h.holding.ready]

theorem pageAt_eq (h : Walkable first b t) (hskip : position.split.2 = 0) :
    pageAt s n f position b = .ok (((f.remaining position t.slots).take n).map Row.record) := by
  have hlist : (found s ⟨none, n, f, position⟩).on b = (.ok (t.list n f position, t.count f, none), b) := by
    show (Board.list n f position >>= fun records => Board.count f >>= fun total =>
      (pure (records, total, none) : Action (List Record × Nat × Option Engine))).on b = _
    have hcount : (Board.count f).on b = (.ok (t.count f), b) := on_ask h.holding.ready
    rw [Action.on_bind_of_ok (on_list h.holding.ready), Action.on_bind_of_ok hcount, Action.on_pure]
  rw [pageAt, hlist, Store.list, Filter.page_eq hskip]
  rfl

end Walkable

/-! ### Pages -/

/-- The rows of a page: they stand in order, behind the position, and what the page leaves out stands behind them. -/
structure PageRows (n : Nat) (f : Filter) (position : Position) (b : Board) (rows : List Row) : Prop where
  ids : (b.rows.map (·.id)).Nodup
  mem : ∀ r ∈ rows, r ∈ b.rows
  admitted : ∀ r ∈ rows, position.admits f.order r.cursor
  sorted : rows.Pairwise fun r t => f.order.before r.cursor t.cursor
  left_out : ∀ r ∈ b.rows, f.predicate.selects r = true → position.admits f.order r.cursor → r ∉ rows →
    rows.length = n ∧ ∀ q ∈ rows, f.order.before q.cursor r.cursor

theorem Walkable.pageRows (h : Walkable first b t) (n : Nat) (f : Filter) (position : Position) :
    PageRows n f position b ((f.remaining position t.slots).take n) := by
  have hids := h.holding.sound.nodup
  have hfront := List.take_sublist n (f.remaining position t.slots)
  refine ⟨by rw [h.rows_eq]; exact hids, ?_, ?_, (Filter.remaining_sorted hids h.timed).sublist hfront, ?_⟩
  · intro r hr
    rw [h.rows_eq]
    exact ((Filter.mem_remaining h.timed).mp (hfront.subset hr)).1
  · exact fun r hr => ((Filter.mem_remaining h.timed).mp (hfront.subset hr)).2.2
  · intro r hr hsel hadm hout
    rw [h.rows_eq] at hr
    exact Filter.left_out hids h.timed ((Filter.mem_remaining h.timed).mpr ⟨hr, hsel, hadm⟩) hout

namespace PageRows
variable {rows : List Row} (h : PageRows n f position b rows)
include h

theorem eq_of_id {q : Row} (hq : q ∈ rows) (hr : r ∈ b.rows) (hid : q.id = r.id) : q = r :=
  eq_of_id_eq h.ids (h.mem q hq) hr hid

theorem nodup : rows.Nodup :=
  h.sorted.imp fun {r q} hbefore (he : r = q) => Order.before_irrefl _ _ (he ▸ hbefore)

theorem records_of_mem (hr : r ∈ rows) : (rows.map Row.record).filter (·.id == r.id) = [r.record] := by
  have hsame : rows.filter (fun q => q.id == r.id) = rows.filter (· == r) := by
    refine List.filter_congr fun q hq => ?_
    by_cases he : q = r
    · simp [he]
    · have hid : q.id ≠ r.id := fun hid => he (h.eq_of_id hq (h.mem r hr) hid)
      simp [he, hid]
  have hone : rows.count r = 1 := List.count_eq_one_of_mem h.nodup hr
  rw [List.filter_map]
  show (rows.filter fun q => q.id == r.id).map Row.record = _
  rw [hsame, List.filter_beq, hone]
  rfl

theorem records_of_not_mem (hr : r ∈ b.rows) (hout : r ∉ rows) :
    (rows.map Row.record).filter (·.id == r.id) = [] := by
  refine List.filter_eq_nil_iff.mpr fun record hrecord hid => hout ?_
  obtain ⟨q, hq, rfl⟩ := List.mem_map.mp hrecord
  exact h.eq_of_id hq hr (beq_iff_eq.mp hid) ▸ hq

theorem before_last {last : Row} (hlast : rows.getLast? = some last) (hr : r ∈ rows) :
    r = last ∨ f.order.before r.cursor last.cursor := by
  have hsplit : rows.dropLast ++ [last] = rows := List.dropLast_append_getLast? last hlast
  have hsorted := h.sorted
  rw [← hsplit] at hsorted hr
  rcases List.mem_append.mp hr with hr | hr
  · exact Or.inr ((List.pairwise_append.mp hsorted).2.2 r hr last (List.mem_singleton_self _))
  · exact Or.inl (List.mem_singleton.mp hr)

/-- What stands behind the last row of the page stands behind the whole page. -/
theorem before_of_last {last : Row} (hlast : rows.getLast? = some last) (hr : r ∈ rows) {c : Cursor}
    (hc : f.order.before last.cursor c) : f.order.before r.cursor c := by
  rcases h.before_last hlast hr with rfl | hbefore
  · exact hc
  · exact Order.before_trans hbefore hc

end PageRows

/-! ### Walks -/

theorem Position.admits_trans {o : Order} {c d : Cursor} (h : position.admits o c) (h' : o.before c d) :
    position.admits o d := by
  cases position with
  | offset => trivial
  | after => exact Order.before_trans h h'

/-- What is kept of the pages of a walk from a position. -/
structure Walked (f : Filter) (position : Position) (pages : List Page) (ended : Bool) : Prop where
  shown : ∀ page ∈ pages, (page.board.rows.map (·.id)).Nodup ∧
    ∀ record ∈ page.records, ∃ q ∈ page.board.rows, q.record = record ∧ position.admits f.order q.cursor
  sorted : (pages.flatMap (·.records)).Pairwise fun p q => f.order.before p.cursor q.cursor
  complete : ended = true → ∀ r, f.predicate.selects r = true → position.admits f.order r.cursor →
    (∀ page ∈ pages, r ∈ page.board.rows) → (pages.flatMap (·.records)).filter (·.id == r.id) = [r.record]

namespace Walked
variable {pages : List Page} {ended : Bool} {rows : List Row}

/-- A slot that stays as it is is not shown where its place was passed. -/
theorem not_shown (h : Walked f position pages ended) (hpassed : ¬position.admits f.order r.cursor)
    (hr : ∀ page ∈ pages, r ∈ page.board.rows) : (pages.flatMap (·.records)).filter (·.id == r.id) = [] := by
  refine List.filter_eq_nil_iff.mpr fun record hrecord hid => hpassed ?_
  obtain ⟨page, hpage, hmem⟩ := List.mem_flatMap.mp hrecord
  obtain ⟨hn, hrows⟩ := h.shown page hpage
  obtain ⟨q, hq, rfl, hadmitted⟩ := hrows record hmem
  exact eq_of_id_eq hn hq (hr page hpage) (beq_iff_eq.mp hid) ▸ hadmitted

theorem shown_of_rows (h : PageRows n f position b rows) :
    (b.rows.map (·.id)).Nodup ∧ ∀ record ∈ rows.map Row.record, ∃ q ∈ b.rows, q.record = record ∧
      position.admits f.order q.cursor := by
  refine ⟨h.ids, fun record hrecord => ?_⟩
  obtain ⟨q, hq, rfl⟩ := List.mem_map.mp hrecord
  exact ⟨q, h.mem q hq, rfl, h.admitted q hq⟩

/-- A walk of one page, which comes to its end only if the page is not full. -/
theorem single (h : PageRows n f position b rows) (hended : ended = true → rows.length ≠ n) :
    Walked f position [⟨b, rows.map Row.record⟩] ended where
  shown page hpage := by
    cases List.mem_singleton.mp hpage
    exact shown_of_rows h
  sorted := by
    rw [List.flatMap_singleton]
    exact List.pairwise_map.mpr h.sorted
  complete hend r hsel hadm hall := by
    have hr : r ∈ b.rows := hall _ (List.mem_singleton_self _)
    rw [List.flatMap_singleton]
    refine h.records_of_mem ?_
    by_contra hout
    exact hended hend (h.left_out r hr hsel hadm hout).1

/-- A page before a walk from its last row on. -/
theorem cons (h : PageRows n f position b rows) {last : Row} (hlast : rows.getLast? = some last)
    (hrest : Walked f (.after last.cursor) pages ended) :
    Walked f position (⟨b, rows.map Row.record⟩ :: pages) ended where
  shown := by
    refine List.forall_mem_cons.mpr ⟨shown_of_rows h, fun page hpage => ?_⟩
    obtain ⟨hn, hrows⟩ := hrest.shown page hpage
    refine ⟨hn, fun record hrecord => ?_⟩
    obtain ⟨q, hq, he, hafter⟩ := hrows record hrecord
    exact ⟨q, hq, he, Position.admits_trans (h.admitted last (List.mem_of_getLast? hlast)) hafter⟩
  sorted := by
    rw [List.flatMap_cons]
    refine List.pairwise_append.mpr ⟨List.pairwise_map.mpr h.sorted, hrest.sorted, ?_⟩
    intro p hp q hq
    obtain ⟨r, hr, rfl⟩ := List.mem_map.mp hp
    obtain ⟨page, hpage, hmem⟩ := List.mem_flatMap.mp hq
    obtain ⟨q', -, rfl, hafter⟩ := (hrest.shown page hpage).2 q hmem
    exact h.before_of_last hlast hr hafter
  complete hend r hsel hadm hall := by
    have hr : r ∈ b.rows := hall _ List.mem_cons_self
    have hlater : ∀ page ∈ pages, r ∈ page.board.rows := fun page hpage => hall page (List.mem_cons_of_mem _ hpage)
    rw [List.flatMap_cons, List.filter_append]
    by_cases hmem : r ∈ rows
    · -- The place of a row that this page shows is passed by all pages to come.
      have hpassed : ¬f.order.before last.cursor r.cursor := fun hafter =>
        Order.before_irrefl _ _ (h.before_of_last hlast hmem hafter)
      rw [h.records_of_mem hmem, hrest.not_shown hpassed hlater, List.append_nil]
    · have hafter := (h.left_out r hr hsel hadm hmem).2 last (List.mem_of_getLast? hlast)
      rw [h.records_of_not_mem hr hmem, hrest.complete hend r hsel hafter hlater, List.nil_append]

end Walked

/-- The next cursor of a page is that of its last row, if the page is full. -/
theorem nextCursor_eq {rows : List Row} (hn : 0 < n) :
    (rows.length ≠ n ∧ nextCursor n (rows.map Row.record) = none) ∨
      ∃ last, rows.getLast? = some last ∧ nextCursor n (rows.map Row.record) = some last.cursor.text := by
  rcases nextCursor_cases hn (rows.map Row.record) with ⟨hlength, hnone⟩ | ⟨-, record, hlast, hnext⟩
  · rw [List.length_map] at hlength
    exact Or.inl ⟨hlength, hnone⟩
  · rw [List.getLast?_map] at hlast
    obtain ⟨last, hrow, rfl⟩ := Option.map_eq_some_iff.mp hlast
    exact Or.inr ⟨last, hrow, hnext⟩

section
variable {records : List Record} {calls : List (Capacity × SlotCall)} {gaps : List (List (Capacity × SlotCall))}
  {text : String} {next : Position} {pages : List Page} {ended : Bool}

theorem walk_last (hpage : pageAt s n f position b = .ok records) (hnext : nextCursor n records = none) :
    walk s n f position b gaps = .ok ([⟨b, records⟩], true) := by
  cases gaps with
  | nil | cons =>
    rw [walk, hpage]
    dsimp only [bind, Except.bind]
    rw [hnext]
    rfl

theorem walk_stopped (hpage : pageAt s n f position b = .ok records) (hnext : nextCursor n records = some text) :
    walk s n f position b [] = .ok ([⟨b, records⟩], false) := by
  rw [walk, hpage]
  dsimp only [bind, Except.bind]
  rw [hnext]
  rfl

theorem walk_next (hpage : pageAt s n f position b = .ok records) (hnext : nextCursor n records = some text)
    (hposition : positionOf [("cursor", text)] = .ok next)
    (hwalk : walk s n f next (b.after calls) gaps = .ok (pages, ended)) :
    walk s n f position b (calls :: gaps) = .ok (⟨b, records⟩ :: pages, ended) := by
  rw [walk, hpage]
  dsimp only [bind, Except.bind]
  rw [hnext]
  dsimp only
  rw [hposition]
  dsimp only
  rw [hwalk]
  rfl

/-- A walk never fails, whatever is written between its pages. -/
theorem walk_walked (f : Filter) (hn : 0 < n) (hskip : position.split.2 = 0) (h : Walkable first b t)
    (hgaps : ∀ x ∈ gaps.flatten, (x.1.size : Int) ≤ Numeral.nat32.high) :
    ∃ pages ended, (∀ s, walk s n f position b gaps = .ok (pages, ended)) ∧ Walked f position pages ended := by
  -- Each page is walked from where the page before it ended, on the board that the calls between them led to.
  induction gaps generalizing position b t with
  | nil =>
    have hrows := h.pageRows n f position
    rcases nextCursor_eq hn with ⟨hlength, hnext⟩ | ⟨last, -, hnext⟩
    · exact ⟨_, _, fun _ => walk_last (h.pageAt_eq hskip) hnext, .single hrows fun _ => hlength⟩
    · exact ⟨_, _, fun _ => walk_stopped (h.pageAt_eq hskip) hnext, .single hrows nofun⟩
  | cons calls gaps ih =>
    have hrows := h.pageRows n f position
    rcases nextCursor_eq hn with ⟨hlength, hnext⟩ | ⟨last, hlast, hnext⟩
    · exact ⟨_, _, fun _ => walk_last (h.pageAt_eq hskip) hnext, .single hrows fun _ => hlength⟩
    · have hcalls : ∀ x ∈ calls, (x.1.size : Int) ≤ Numeral.nat32.high := fun x hx =>
        hgaps x (List.mem_append_left _ hx)
      have hmem : last ∈ t.slots := h.rows_eq ▸ hrows.mem last (List.mem_of_getLast? hlast)
      obtain ⟨t', ht'⟩ := h.after hcalls
      have hnone : (Position.after last.cursor).split.2 = 0 := rfl
      obtain ⟨pages, ended, hwalk, hwalked⟩ := ih hnone ht' fun x hx => hgaps x (List.mem_append_right _ hx)
      have hnext' := Cursor.positionOf_text (h.readable hmem)
      exact ⟨_, _, fun s => walk_next (h.pageAt_eq hskip) hnext hnext' (hwalk s), .cons hrows hlast hwalked⟩

end

variable {b₀ : Board} {before : List (Capacity × SlotCall)} {gaps : List (List (Capacity × SlotCall))}

/-- A board that calls led to can be walked through, if no row of it and no reading to come is of a negative time. -/
theorem walkable_after (h₀ : b₀.Vacant) (hreadings : ∀ i, Numeral.int64.holds (b₀.clock.item i) = true)
    (hcapacities : ∀ x ∈ before, (x.1.size : Int) ≤ Numeral.nat32.high)
    (hcreated : ∀ r ∈ (b₀.after before).rows, 0 ≤ r.record.createdAt)
    (hlater : ∀ i, (b₀.after before).clock.used ≤ i → 0 ≤ b₀.clock.item i) :
    ∃ t, Walkable b₀.clock.used (b₀.after before) t := by
  obtain ⟨t₀, ht₀⟩ := h₀.holding
  obtain ⟨t, ht⟩ := ht₀.after before
  have hhigh (i : Nat) : b₀.clock.item i ≤ Numeral.int64.high := by
    have hholds := hreadings i
    rw [Numeral.Range.holds, Bool.and_eq_true, decide_eq_true_eq, decide_eq_true_eq] at hholds
    exact hholds.2
  have hitem : (b₀.after before).clock.item = b₀.clock.item := (after_clock ht₀ before).1
  have hrows : (b₀.after before).rows = t.slots := by rw [Board.rows, ht.ready]
  refine ⟨t, ht, fun r hr => ?_, ?_, fun i hi => ?_⟩
  · obtain ⟨time, ⟨i, -, hi⟩, htime⟩ := ht.times.rows r hr
    rw [hrows] at hcreated
    rw [hitem] at hi
    have htime0 : r.record.createdAt = time := by simp [Row.record, htime]
    exact ⟨time, ⟨htime0 ▸ hcreated r hr, hi ▸ hhigh i⟩, htime⟩
  · have hlargest : largest before ≤ Numeral.nat32.high.toNat := largest_le fun x hx => Int.le_toNat (by decide) |>.mpr
      (hcapacities x hx)
    have hlength := h₀.after_length ht
    exact (Int.ofNat_le.mpr (hlength.trans hlargest)).trans (Int.toNat_of_nonneg (by decide)).le
  · rw [hitem]
    exact ⟨hlater i hi, hhigh i⟩

/-- A walk through a listing that starts where calls led to, whatever calls are made between its pages, never fails.
It shows records strictly in order across all pages; and if it comes to its end, it shows every row exactly once that
the filter lets through and that is there, as it is, at every page. -/
theorem walk_is_complete (h₀ : b₀.Vacant) (hreadings : ∀ i, Numeral.int64.holds (b₀.clock.item i) = true)
    (hcapacities : ∀ x ∈ before ++ gaps.flatten, (x.1.size : Int) ≤ Numeral.nat32.high)
    (hcreated : ∀ r ∈ (b₀.after before).rows, 0 ≤ r.record.createdAt)
    (hlater : ∀ i, (b₀.after before).clock.used ≤ i → 0 ≤ b₀.clock.item i)
    (hn : 0 < n) (f : Filter) :
    ∃ pages ended, (∀ s, walk s n f (.offset 0) (b₀.after before) gaps = .ok (pages, ended)) ∧
      (pages.flatMap (·.records)).Pairwise (fun p q => f.order.before p.cursor q.cursor) ∧
      (ended = true → ∀ r, f.predicate.selects r = true → (∀ page ∈ pages, r ∈ page.board.rows) →
        (pages.flatMap (·.records)).filter (·.id == r.id) = [r.record]) := by
  obtain ⟨t, ht⟩ := walkable_after h₀ hreadings (fun x hx => hcapacities x (List.mem_append_left _ hx)) hcreated hlater
  have hstart : (Position.offset 0).split.2 = 0 := rfl
  obtain ⟨pages, ended, hwalk, hwalked⟩ := walk_walked f hn hstart ht fun x hx =>
    hcapacities x (List.mem_append_right _ hx)
  exact ⟨pages, ended, hwalk, hwalked.sorted, fun hend r hsel hall => hwalked.complete hend r hsel trivial hall⟩

/-- A clock that goes forth and back. -/
def swinging : Supply Int := ⟨fun n => 1000 + n % 2, 0⟩

/-- Three slots, of which the first and the last are stored in the same second. -/
def threeSlots : List (Capacity × SlotCall) :=
  [(.of 3, .insert (.text "a")), (.of 3, .insert (.text "b")), (.of 3, .insert (.text "c"))]

/-- A fourth slot is stored, then the third is deleted. -/
def threeGaps : List (List (Capacity × SlotCall)) :=
  [[(.of 4, .insert (.text "d"))], [(.of 4, .delete 3)], []]

/-- The fourth slot stands before the first page, and the third is deleted when it was shown. -/
theorem walk_of_three : ∃ pages : List Page,
    (∀ s, walk s 1 {} (.offset 0) ((fresh swinging).after threeSlots) threeGaps = .ok (pages, true)) ∧
    pages.map (·.records) = [[⟨2, .text "b", 1001, none, 0, true⟩], [⟨3, .text "c", 1000, none, 0, true⟩],
      [⟨1, .text "a", 1000, none, 0, true⟩], []] := by
  refine ⟨_, fun s => walk_next (by cbv) rfl (Cursor.positionOf_text (c := ⟨1001, 2⟩) ?_)
    (walk_next (by cbv) rfl (Cursor.positionOf_text (c := ⟨1000, 3⟩) ?_)
      (walk_next (by cbv) rfl (Cursor.positionOf_text (c := ⟨1000, 1⟩) ?_)
        (walk_last (by cbv : _ = Except.ok []) rfl))), rfl⟩
  all_goals exact ⟨by decide, by decide, by decide, by decide⟩

/-- Three slots are walked through one by one to the end, while slots are stored and deleted. -/
theorem walk_is_complete_of_three : ∃ pages,
    (∀ s, walk s 1 {} (.offset 0) ((fresh swinging).after threeSlots) threeGaps = .ok (pages, true)) ∧
    (pages.flatMap (·.records)).Pairwise (fun p q => Order.desc.before p.cursor q.cursor) ∧
    ∀ r, ({} : Filter).predicate.selects r = true → (∀ page ∈ pages, r ∈ page.board.rows) →
      (pages.flatMap (·.records)).filter (·.id == r.id) = [r.record] := by
  have hreadings (i : Nat) : Numeral.int64.holds ((fresh swinging).clock.item i) = true := by
    have hitem : (fresh swinging).clock.item i = 1000 + (i : Int) % 2 := rfl
    rw [Numeral.Range.holds, hitem, Bool.and_eq_true, decide_eq_true_eq, decide_eq_true_eq]
    simp only [Numeral.int64]
    omega
  have hcapacities : ∀ x ∈ threeSlots ++ threeGaps.flatten, (x.1.size : Int) ≤ Numeral.nat32.high := by decide +kernel
  have hcreated : ∀ r ∈ ((fresh swinging).after threeSlots).rows, 0 ≤ r.record.createdAt := by
    have hall : (((fresh swinging).after threeSlots).rows.all fun r => decide (0 ≤ r.record.createdAt)) = true := by
      cbv
    simpa using hall
  have hlater (i : Nat) (_ : ((fresh swinging).after threeSlots).clock.used ≤ i) :
      0 ≤ (fresh swinging).clock.item i := by
    show (0 : Int) ≤ 1000 + (i : Int) % 2
    omega
  obtain ⟨pages, ended, hwalk, hsorted, hcomplete⟩ := walk_is_complete (fresh_vacant swinging) hreadings hcapacities
    hcreated hlater Nat.one_pos {}
  obtain ⟨pages', hwalk', -⟩ := walk_of_three
  -- The walks are the same one, as there are settings to walk with.
  obtain ⟨s, -⟩ : ∃ s, Settings.read (fun _ => none) = .ok s := ⟨_, rfl⟩
  cases (hwalk s).symm.trans (hwalk' s)
  exact ⟨pages, hwalk, hsorted, hcomplete rfl⟩

end Pasteboard
