import Pasteboard.Proofs.Listing.Cursor
import Pasteboard.Proofs.Listing.Search
import Pasteboard.Proofs.Listing.Walk
/-!
Two ways through a listing.

Pages may be counted off, each behind so many records, or follow each other, each behind the cursor that the page before
it ended with. Both ways lead through the same pages, which together are the whole listing: what stands behind the last
record of a page is exactly what the pages up to it leave, since no two records have the same place.
-/

namespace Pasteboard
open Api Board Search Store Text

/-- The pages from a position on, where each page starts behind the cursor that the page before it ended with, read back
from its text, and the last one has no such cursor. -/
inductive Follows (page : Position → Except StoreError (List Record)) (n : Nat) : Position → List (List Record) → Prop
  | last {position : Position} {records : List Record} (shown : page position = .ok records)
      (ends : nextCursor n records = none) : Follows page n position [records]
  | next {position next : Position} {records : List Record} {text : String} {pages : List (List Record)}
      (shown : page position = .ok records) (cursor : nextCursor n records = some text)
      (read : positionOf [("cursor", text)] = .ok next) (rest : Follows page n next pages) :
      Follows page n position (records :: pages)

/-- Both ways lead through the same pages, and what they show is in order and nothing twice. -/
structure Paged (page : Position → Except StoreError (List Record)) (o : Order) (n : Nat) (pages : List (List Record)) :
    Prop where
  followed : ∀ pages', Follows page n (.offset 0) pages' ↔ pages' = pages
  counted : ∀ k (hk : k < pages.length), page (.offset (k * n)) = .ok pages[k]
  ids : (pages.flatten.map (·.id)).Nodup
  sorted : pages.flatten.Pairwise fun p q => o.before p.cursor q.cursor

variable {b : Board} {s : Store} {o : Order} {f : Filter} {position : Position} {n k : Nat}
  {page : Position → Except StoreError (List Record)} {all records : List Record} {pages pages' : List (List Record)}
  {last : Record}

/-! ### Where a page starts -/

theorem cut_offset (hlength : all.length ≤ 9223372036854775807) (k : Nat) :
    (Position.offset k).cut o n all = (all.drop k).take n := by
  have hall : all.filter (fun r => (Position.offset k).admits o r.cursor) = all :=
    List.filter_eq_self.mpr fun r _ => decide_eq_true trivial
  rw [Position.cut, hall, Position.split]
  rcases Nat.le_total k 9223372036854775807 with hk | hk
  · rw [Nat.min_eq_left hk]
  · rw [Nat.min_eq_right hk, List.drop_eq_nil_of_le hlength, List.drop_eq_nil_of_le (hlength.trans hk)]

/-- Behind the last of the first records stand all the others. -/
theorem cut_after (hsorted : all.Pairwise fun p q => o.before p.cursor q.cursor)
    (hlast : (all.take k).getLast? = some last) :
    (Position.after last.cursor).cut o n all = (all.drop k).take n := by
  have hsplit := hsorted
  rw [← List.take_append_drop k all] at hsplit
  obtain ⟨hfront, -, hbehind⟩ := List.pairwise_append.mp hsplit
  have hpassed : ∀ r ∈ all.take k, ¬o.before last.cursor r.cursor := fun r hr => by
    rw [← List.dropLast_append_getLast? last hlast] at hr hfront
    rcases List.mem_append.mp hr with hr | hr
    · exact Order.before_asymm ((List.pairwise_append.mp hfront).2.2 r hr last (List.mem_singleton_self _))
    · rw [List.mem_singleton.mp hr]
      exact Order.before_irrefl o _
  have hrest : all.filter (fun r => (Position.after last.cursor).admits o r.cursor) = all.drop k := by
    rw [← List.take_append_drop k all, List.filter_append, List.filter_eq_nil_iff.mpr, List.nil_append,
      List.filter_eq_self.mpr, List.take_append_drop]
    · exact fun r hr => decide_eq_true (hbehind last (List.mem_of_getLast? hlast) r hr)
    · exact fun r hr h => hpassed r hr (of_decide_eq_true h)
  rw [Position.cut, hrest, Position.split, List.drop_zero]

/-! ### Walks -/

/-- There is one walk at most from a position. -/
theorem Follows.unique (h : Follows page n position pages) (h' : Follows page n position pages') : pages = pages' := by
  induction h generalizing pages' with
  | last shown ends =>
    cases h' with
    | last shown' _ => rw [Except.ok.inj (shown.symm.trans shown')]
    | next shown' cursor' =>
      rw [Except.ok.inj (shown'.symm.trans shown), ends] at cursor'
      cases cursor'
  | next shown cursor read _ ih =>
    cases h' with
    | last shown' ends' =>
      rw [Except.ok.inj (shown'.symm.trans shown), cursor] at ends'
      cases ends'
    | next shown' cursor' read' rest' =>
      obtain rfl := Except.ok.inj (shown.symm.trans shown')
      obtain rfl := Option.some.inj (cursor.symm.trans cursor')
      obtain rfl := Except.ok.inj (read.symm.trans read')
      rw [ih rest']

/-- A walk from where some records are left shows them all, each page what the pages before it leave. -/
theorem exists_follows (hn : 0 < n) (hpage : ∀ position, page position = .ok (position.cut o n all))
    (hsorted : all.Pairwise fun p q => o.before p.cursor q.cursor) (hreadable : ∀ r ∈ all, r.cursor.Readable)
    (hstart : position.cut o n all = (all.drop k).take n) : ∃ pages, Follows page n position pages ∧
      pages.flatten = all.drop k ∧ ∀ i (hi : i < pages.length), pages[i] = (all.drop (k + i * n)).take n := by
  -- By induction on the number of records left.
  induction hleft : all.length - k using Nat.strong_induction_on generalizing position k with
  | _ left ih =>
    have hshown : page position = .ok ((all.drop k).take n) := by rw [hpage, hstart]
    rcases nextCursor_cases hn ((all.drop k).take n) with ⟨hshort, hends⟩ | ⟨hfull, last, hlast, hcursor⟩
    · have hall : (all.drop k).take n = all.drop k := by
        refine List.take_of_length_le ?_
        rw [List.length_take] at hshort
        omega
      refine ⟨[(all.drop k).take n], .last hshown hends, by simpa using hall, fun i hi => ?_⟩
      obtain rfl : i = 0 := by simpa using hi
      simp
    · have hmem : last ∈ all := List.mem_of_mem_drop (List.mem_of_mem_take (List.mem_of_getLast? hlast))
      have hread := Cursor.positionOf_text (hreadable last hmem)
      have hfront : (all.take (k + n)).getLast? = some last := by
        rw [List.take_add, List.getLast?_append, hlast, Option.some_or]
      rw [List.length_take, List.length_drop] at hfull
      obtain ⟨pages, hfollows, hflatten, hget⟩ := ih _ (by omega) (cut_after hsorted hfront) rfl
      refine ⟨(all.drop k).take n :: pages, .next hshown hcursor hread hfollows, ?_, fun i hi => ?_⟩
      · rw [List.flatten_cons, hflatten, ← List.drop_drop, List.take_append_drop]
      · cases i with
        | zero => simp
        | succ i =>
          have hskip : k + (i + 1) * n = k + n + i * n := by rw [Nat.succ_mul, Nat.add_assoc, Nat.add_comm n]
          rw [List.getElem_cons_succ, hget i (Nat.lt_of_succ_lt_succ hi), hskip]

theorem paged_of_cut (hn : 0 < n) (hpage : ∀ position, page position = .ok (position.cut o n all))
    (hsorted : all.Pairwise fun p q => o.before p.cursor q.cursor) (hreadable : ∀ r ∈ all, r.cursor.Readable)
    (hids : (all.map (·.id)).Nodup) (hlength : all.length ≤ 9223372036854775807) :
    ∃ pages, Paged page o n pages ∧ pages.flatten = all := by
  obtain ⟨pages, hfollows, hflatten, hget⟩ := exists_follows (k := 0) hn hpage hsorted hreadable (cut_offset hlength 0)
  rw [List.drop_zero] at hflatten
  refine ⟨pages, ⟨fun pages' => ⟨fun h => h.unique hfollows, fun h => h ▸ hfollows⟩, fun i hi => ?_, ?_, ?_⟩, hflatten⟩
  · rw [hpage, cut_offset hlength, hget i hi, Nat.zero_add]
  · rwa [hflatten]
  · rwa [hflatten]

/-! ### Listings and searches -/

/-- Data whose numbers are of 64 bits, with no negative time of creation. -/
structure Store.Pageable (s : Store) : Prop where
  indexed : s.Indexed
  timed : ∀ r ∈ s.slots, ∃ t, r.createdAt = some t
  readable : ∀ r ∈ s.slots, r.cursor.Readable

namespace Store.Pageable
variable (h : s.Pageable)
include h

theorem length_le : s.slots.length ≤ 9223372036854775807 := by
  by_contra hlong
  have hlast : (s.slots.length : Int) ∈ s.slots.map (·.id) := by
    rw [h.indexed.sound.ids, mem_idsUpTo]
    omega
  obtain ⟨r, hr, hid⟩ := List.mem_map.mp hlast
  have hle : r.id ≤ Numeral.int64.high := (h.readable r hr).id_le
  simp only [Numeral.int64] at hle
  omega

/-- Any part of a listing can be paged through both ways. -/
theorem paged (hn : 0 < n) (hpart : records.Sublist (s.listing f))
    (hpage : ∀ position, page position = .ok (position.cut f.order n records)) :
    ∃ pages, Paged page f.order n pages ∧ pages.flatten = records := by
  have hids := h.indexed.sound.nodup
  refine paged_of_cut hn hpage ((listing_sorted hids h.timed).sublist hpart) (fun record hrecord => ?_)
    ((listing_ids hids).sublist (hpart.map _)) (hpart.length_le.trans ?_)
  · obtain ⟨r, hr, -, rfl⟩ := mem_listing.mp (hpart.subset hrecord)
    exact h.readable r hr
  · rw [listing_length]
    exact (List.length_filter_le _ _).trans h.length_le

end Store.Pageable

theorem Board.Reachable.pageable (h : b.Reachable) (hs : b.database = .ready s)
    (hcreated : ∀ r ∈ s.slots, 0 ≤ r.record.createdAt)
    (hwide : ∀ r ∈ s.slots, r.record.createdAt ≤ Numeral.int64.high ∧ r.id ≤ Numeral.int64.high) : s.Pageable := by
  refine ⟨h.indexed_ready hs, h.timed hs, fun r hr => ⟨hcreated r hr, (hwide r hr).1, ?_, (hwide r hr).2⟩⟩
  have hpos := ((h.sound hs).id_bounds hr).1
  show 0 < r.id
  omega

/-- On every board whose rows have no negative time of creation, and numbers of 64 bits as the database stores them,
pages counted off and pages that follow cursors are the same, for listings and for searches. Together they show nothing
twice, in order, and as many records as are counted. A search for a query either goes through pages so, or fails at
every position, which it does only for want of an engine that takes the query. -/
theorem offsets_and_cursors_agree (h : b.Reachable) (hs : b.database = .ready s)
    (hcreated : ∀ r ∈ s.slots, 0 ≤ r.record.createdAt)
    (hwide : ∀ r ∈ s.slots, r.record.createdAt ≤ Numeral.int64.high ∧ r.id ≤ Numeral.int64.high)
    (hn : 0 < n) (f : Filter) :
    (∃ pages, Paged (fun position => ((Board.list n f position).on b).1) f.order n pages ∧
      ((Board.count f).on b).1 = .ok pages.flatten.length) ∧
    ∀ fallback raw e, expression raw = .ok e →
      (∃ pages,
        Paged (fun position => ((Board.search fallback raw n f position).on b).1.map (·.records)) f.order n pages ∧
        ∀ position, ((Board.search fallback raw n f position).on b).1.map (·.total) = .ok pages.flatten.length) ∨
      ((∃ error, ∀ position, ((Board.search fallback raw n f position).on b).1 = .error error) ∧
        ∀ engine, engine? fallback s.index = .ok engine → ¬engine.Takes raw) := by
  have hpageable := h.pageable hs hcreated hwide
  constructor
  · have hpage (position : Position) :
        ((Board.list n f position).on b).1 = .ok (position.cut f.order n (s.listing f)) := by
      rw [on_list hs, list_eq_cut hpageable.indexed.sound.nodup hpageable.timed]
    obtain ⟨pages, hpaged, hflatten⟩ := hpageable.paged hn (List.Sublist.refl _) hpage
    have hcount : (Board.count f).on b = (.ok (s.count f), b) := on_ask hs
    exact ⟨pages, hpaged, by rw [hcount, hflatten, listing_length]⟩
  · intro fallback raw e he
    cases hengine : engine? fallback s.index with
    | error error =>
      exact Or.inr ⟨⟨error, fun position => by rw [search_ready hs, search_unavailable he hengine]⟩, nofun⟩
    | ok engine =>
      have hanswer (position : Position) : ((Board.search fallback raw n f position).on b).1 =
          engine.answer raw position f.order n (s.listing f) := by
        rw [search_ready hs, search_eq hpageable.indexed hpageable.timed he hengine]
      by_cases htakes : engine.Takes raw ∨ ∀ r ∈ s.listing f, r.text? = none
      · have hok (position : Position) : ((Board.search fallback raw n f position).on b).1 =
            .ok ⟨position.cut f.order n ((s.listing f).filter (·.foundBy engine raw)),
              ((s.listing f).filter (·.foundBy engine raw)).length, engine⟩ := by
          rw [hanswer, Engine.answer, if_pos htakes]
        have hpage (position : Position) : ((Board.search fallback raw n f position).on b).1.map (·.records) =
            .ok (position.cut f.order n ((s.listing f).filter (·.foundBy engine raw))) := by
          rw [hok]
          rfl
        obtain ⟨pages, hpaged, hflatten⟩ := hpageable.paged hn List.filter_sublist hpage
        exact Or.inl ⟨pages, hpaged, fun position => by rw [hok, hflatten]; rfl⟩
      · refine Or.inr ⟨⟨.database engine.fault, fun position => ?_⟩, fun engine' he' => ?_⟩
        · rw [hanswer, Engine.answer, if_neg htakes]
        · cases he'
          exact fun hengine' => htakes (Or.inl hengine')

theorem threeSlots_ready : ((fresh swinging).after threeSlots).database = .ready {
    slots := [fill 1000 (.text "a") (.fresh 1), fill 1001 (.text "b") (.fresh 2), fill 1000 (.text "c") (.fresh 3)],
    index := some { entries := [⟨1, some "a"⟩, ⟨2, some "b"⟩, ⟨3, some "c"⟩], faults := 0 } } := by
  cbv

/-- Three slots, of which two are stored in the same second, on pages of one. -/
theorem offsets_and_cursors_agree_of_three : ∃ pages,
    Paged (fun position => ((Board.list 1 {} position).on ((fresh swinging).after threeSlots)).1) .desc 1 pages ∧
    pages.flatten.length = 3 := by
  obtain ⟨⟨pages, hpaged, hcount⟩, -⟩ := offsets_and_cursors_agree ((fresh_reachable swinging).after threeSlots)
    threeSlots_ready (by decide) (by decide) Nat.one_pos {}
  have hthree : ((Board.count {}).on ((fresh swinging).after threeSlots)).1 = .ok 3 := by cbv
  exact ⟨pages, hpaged, Except.ok.inj (hcount.symm.trans hthree)⟩

end Pasteboard
