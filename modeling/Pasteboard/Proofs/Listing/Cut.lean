import Pasteboard.Proofs.Listing.Page
import Pasteboard.Proofs.Slots.Rows
/-!
A page is cut out of the whole listing.

The database works out every page anew, with conditions and a number of rows to leave out. As rows have one order only,
that is the same as to cut the page out of the list of all records that the filter lets through.
-/

namespace Pasteboard

instance Order.decidableBefore (o : Order) (c d : Cursor) : Decidable (o.before c d) :=
  match o with
  | .desc => inferInstanceAs (Decidable (d.createdAt < c.createdAt ∨ d.createdAt = c.createdAt ∧ d.id < c.id))
  | .asc => inferInstanceAs (Decidable (c.createdAt < d.createdAt ∨ c.createdAt = d.createdAt ∧ c.id < d.id))

instance Position.decidableAdmits (o : Order) (position : Position) (c : Cursor) : Decidable (position.admits o c) :=
  match position with
  | .offset _ => isTrue trivial
  | .after d => inferInstanceAs (Decidable (o.before d c))

/-- A page of records: those behind the cursor of its position, without as many as its offset says, up to a limit. -/
def Position.cut (position : Position) (o : Order) (n : Nat) (all : List Record) : List Record :=
  ((all.filter fun r => position.admits o r.cursor).drop position.split.2).take n

/-- All records that a filter lets through, in its order. -/
def Store.listing (f : Filter) (s : Store) : List Record := (f.rows s.slots).map Row.record

variable {f : Filter} {position : Position} {rows : List Row} {r : Row} {n : Nat} {s : Store}

/-! ### What a filter lets through -/

theorem Row.isActive_holds : Relation.eq.holds (r.cell .isActive) (.int 1) = some true ↔ r.isActive = true := by
  cases h : r.isActive <;> simp [Row.cell, Relation.holds, h]

theorem Row.isFile_holds {isFile : Bool} :
    Relation.eq.holds (r.cell .isFile) (.int (if isFile then 1 else 0)) = some true ↔ r.isFile = isFile := by
  cases h : r.isFile <;> cases isFile <;> simp [Row.cell, Relation.holds, h]

theorem Row.mime_holds {mime : String} :
    Relation.eq.holds (r.cell .mime) (.text mime) = some true ↔ r.mime = some mime := by
  cases h : r.mime <;> simp [Row.cell, Relation.holds, h]

theorem Row.filename_holds {name : String} :
    Relation.eq.holds (r.cell .filename) (.text name) = some true ↔ r.filename = some name := by
  cases h : r.filename <;> simp [Row.cell, Relation.holds, h]

/-- A filter lets a row through that is active, unless it need not be, and has the kind, the media type and the name
that are asked for. -/
theorem Filter.selects_iff : f.predicate.selects r = true ↔ (f.includeInactive = false → r.isActive = true) ∧
    (∀ isFile ∈ f.isFile, r.isFile = isFile) ∧ (∀ mime ∈ f.mime, r.mime = some mime) ∧
    ∀ name ∈ f.filename, r.filename = some name := by
  obtain ⟨includeInactive, isFile, mime, name, order⟩ := f
  -- Each clause uses the next of the values, so they are read off one by one, whichever are there.
  cases includeInactive <;> cases isFile <;> cases mime <;> cases name <;>
    simp [predicate, Predicate.add, Predicate.selects, evalAll, Condition.eval, and3_eq_true, Row.isActive_holds,
      Row.isFile_holds, Row.mime_holds, Row.filename_holds]

/-! ### Pages -/

theorem Order.sort_filter {o : Order} (hn : (rows.map (·.id)).Nodup) (p : Row → Bool) :
    o.sort (rows.filter p) = (o.sort rows).filter p :=
  sort_eq (hn.sublist (List.filter_sublist.map _)) ((sort_perm o rows).filter p) ((sort_pairwise o rows).filter p)

theorem Filter.page_eq_cut (hn : (rows.map (·.id)).Nodup) (htimed : ∀ r ∈ rows, ∃ t, r.createdAt = some t)
    (more : Row → Bool) : (f.page more n position rows).map Row.record =
      position.cut f.order n (((f.rows rows).filter more).map Row.record) := by
  have hshown : rows.filter (fun r => (f.predicateAfter position.split.1).selects r && more r) =
      ((rows.filter f.predicate.selects).filter more).filter fun r => position.admits f.order r.cursor := by
    rw [List.filter_filter, List.filter_filter]
    refine List.filter_congr fun r hr => ?_
    obtain ⟨t, ht⟩ := htimed r hr
    rw [Bool.eq_iff_iff]
    simp only [Bool.and_eq_true, selects_after_iff ht, decide_eq_true_iff]
    tauto
  have hids : ((rows.filter f.predicate.selects).map (·.id)).Nodup := hn.sublist (List.filter_sublist.map _)
  have hpage : f.page more n position rows =
      ((((f.rows rows).filter more).filter fun r => position.admits f.order r.cursor).drop
        position.split.2).take n := by
    rw [page]
    dsimp only
    rw [hshown, Order.sort_filter (hids.sublist (List.filter_sublist.map _)), Order.sort_filter hids, Filter.rows]
  rw [hpage, Position.cut, List.filter_map, List.map_take, List.map_drop]
  rfl

/-! ### Listings -/

namespace Store

theorem mem_listing {record : Record} : record ∈ s.listing f ↔
    ∃ r ∈ s.slots, f.predicate.selects r = true ∧ r.record = record := by
  simp [listing, Filter.rows, (Order.sort_perm _ _).mem_iff, and_assoc]

theorem listing_sorted (hn : (s.slots.map (·.id)).Nodup) (htimed : ∀ r ∈ s.slots, ∃ t, r.createdAt = some t) :
    (s.listing f).Pairwise fun p q => f.order.before p.cursor q.cursor :=
  List.pairwise_map.mpr (Order.sort_before (hn.sublist (List.filter_sublist.map _)) fun r hr =>
    htimed r (List.mem_of_mem_filter hr))

theorem listing_ids (hn : (s.slots.map (·.id)).Nodup) : ((s.listing f).map (·.id)).Nodup := by
  have hids : (s.listing f).map (·.id) = (f.rows s.slots).map (·.id) := by
    rw [listing, List.map_map]
    rfl
  rw [hids, Filter.rows, ((Order.sort_perm _ _).map _).nodup_iff]
  exact hn.sublist (List.filter_sublist.map _)

theorem listing_length : (s.listing f).length = s.count f := by
  rw [listing, List.length_map, Filter.rows, (Order.sort_perm _ _).length_eq, count]

theorem list_eq_cut (hn : (s.slots.map (·.id)).Nodup) (htimed : ∀ r ∈ s.slots, ∃ t, r.createdAt = some t) :
    s.list n f position = position.cut f.order n (s.listing f) := by
  rw [list, Filter.page_eq_cut hn htimed, List.filter_true]
  rfl

end Store

end Pasteboard
