import Mathlib
import Pasteboard.Listing.Filter
/-!
The order of rows by time and id.

Every row has a place: its time of creation, where an absent time comes first, and its id. Places are
linearly ordered, rows with different ids have different places, so a listing has exactly one order.
-/

namespace Pasteboard

/-- A time of creation, where an absent time comes before all others. -/
def timeRank (t : Option Int) : WithBot Int := t

/-- The place of a row in listings: its time of creation, then its id. -/
def Row.place (r : Row) : WithBot Int ×ₗ Int := toLex (timeRank r.createdAt, r.id)

/-- Rows from the newest to the oldest, no two of the same place. -/
def NewestFirst (rows : List Row) : Prop := rows.Pairwise fun r t => t.place < r.place

theorem timeRank_lt_some {m n : Int} : timeRank (some m) < timeRank (some n) ↔ m < n := WithBot.coe_lt_coe

theorem timeLess_iff {a b : Option Int} : timeLess a b = true ↔ timeRank a < timeRank b := by
  cases a with
  | none => cases b with
    | none => exact ⟨nofun, fun h => absurd h (lt_irrefl _)⟩
    | some t => exact ⟨fun _ => WithBot.bot_lt_coe t, fun _ => rfl⟩
  | some t => cases b with
    | none => exact ⟨nofun, fun h => absurd h (not_lt_of_ge bot_le)⟩
    | some u => exact decide_eq_true_iff.trans timeRank_lt_some.symm

theorem Row.olderThan_iff {r t : Row} : r.olderThan t = true ↔ r.place < t.place := by
  rw [Row.place, Row.place, Prod.Lex.toLex_lt_toLex]
  simp only [Row.olderThan, Bool.or_eq_true, Bool.and_eq_true, beq_iff_eq, decide_eq_true_eq, timeLess_iff]
  exact Iff.rfl

theorem Row.place_lt_iff {r t : Row} {m n : Int} (hr : r.createdAt = some m) (ht : t.createdAt = some n) :
    r.place < t.place ↔ m < n ∨ m = n ∧ r.id < t.id := by
  rw [Row.place, Row.place, Prod.Lex.toLex_lt_toLex, hr, ht]
  exact or_congr timeRank_lt_some (and_congr_left' WithBot.coe_inj)

theorem Row.place_congr {r t : Row} (htime : r.createdAt = t.createdAt) (hid : r.id = t.id) :
    r.place = t.place := by
  simp only [Row.place, htime, hid]

theorem Row.id_eq_of_place {r t : Row} (h : r.place = t.place) : r.id = t.id :=
  congrArg (fun p => (ofLex p).2) h

theorem Order.desc_allows {r t : Row} : Order.desc.allows r t = true ↔ t.place ≤ r.place := by
  rw [Order.allows, Bool.not_eq_true', ← Bool.not_eq_true, Row.olderThan_iff, not_lt]

theorem Order.asc_allows {r t : Row} : Order.asc.allows r t = true ↔ r.place ≤ t.place := by
  rw [Order.allows, Bool.not_eq_true', ← Bool.not_eq_true, Row.olderThan_iff, not_lt]

/-! ### Sorting -/

section Sorting
variable {rows l : List Row}

theorem Order.sort_perm (o : Order) (rows : List Row) : (o.sort rows).Perm rows :=
  List.mergeSort_perm _ _

theorem Order.sort_pairwise (o : Order) (rows : List Row) : (o.sort rows).Pairwise fun r t => o.allows r t = true := by
  refine List.pairwise_mergeSort ?_ ?_ rows
  · intro a b c hab hbc
    cases o
    · exact Order.desc_allows.mpr ((Order.desc_allows.mp hbc).trans (Order.desc_allows.mp hab))
    · exact Order.asc_allows.mpr ((Order.asc_allows.mp hab).trans (Order.asc_allows.mp hbc))
  · intro a b
    rw [Bool.or_eq_true]
    cases o
    · rw [Order.desc_allows, Order.desc_allows]
      exact le_total _ _
    · rw [Order.asc_allows, Order.asc_allows]
      exact le_total _ _

theorem eq_of_id_eq (hn : (rows.map (·.id)).Nodup) {r t : Row} (hr : r ∈ rows) (ht : t ∈ rows) (h : r.id = t.id) :
    r = t := List.inj_on_of_nodup_map hn hr ht h

/-- There is only one way to order rows with different ids. -/
theorem Order.sort_eq {o : Order} (hn : (rows.map (·.id)).Nodup) (hp : l.Perm rows)
    (hl : l.Pairwise fun r t => o.allows r t = true) : o.sort rows = l := by
  have hsort := Order.sort_perm o rows
  refine List.Perm.eq_of_pairwise ?_ (Order.sort_pairwise o rows) hl
    (hsort.trans hp.symm)
  intro a b ha hb hab hba
  refine eq_of_id_eq hn (hsort.mem_iff.mp ha) (hp.mem_iff.mp hb) (Row.id_eq_of_place ?_)
  cases o
  · exact le_antisymm (Order.desc_allows.mp hba) (Order.desc_allows.mp hab)
  · exact le_antisymm (Order.asc_allows.mp hab) (Order.asc_allows.mp hba)

theorem newestFirst_sort (hn : (rows.map (·.id)).Nodup) : NewestFirst (Order.desc.sort rows) := by
  have hsort := Order.sort_perm .desc rows
  have hids : ((Order.desc.sort rows).map (·.id)).Nodup := (hsort.map _).nodup_iff.mpr hn
  refine ((Order.sort_pairwise .desc rows).and (List.pairwise_map.mp hids)).imp ?_
  rintro r t ⟨hle, hne⟩
  exact lt_of_le_of_ne (Order.desc_allows.mp hle) fun he => hne (Row.id_eq_of_place he).symm

theorem sort_desc_eq (hn : (rows.map (·.id)).Nodup) (hp : l.Perm rows) (hl : NewestFirst l) :
    Order.desc.sort rows = l :=
  Order.sort_eq hn hp (hl.imp fun h => Order.desc_allows.mpr h.le)

theorem NewestFirst.head?_eq_iff (hl : NewestFirst l) {q : Row} (hq : q ∈ l) :
    l.head? = some q ↔ ∀ r ∈ l, r ≠ q → r.place < q.place := by
  cases l with
  | nil => cases hq
  | cons a l =>
    have hbehind := (List.pairwise_cons.mp hl).1
    constructor
    · rintro he r hr hne
      cases he
      exact hbehind r ((List.mem_cons.mp hr).resolve_left hne)
    · intro hall
      by_contra hne
      have hneq : a ≠ q := fun he => hne (congrArg some he)
      have hlt := hall a List.mem_cons_self hneq
      exact lt_asymm hlt (hbehind q ((List.mem_cons.mp hq).resolve_left hneq.symm))

/-- Oldest first is newest first from behind. -/
theorem sort_asc_eq (hn : (rows.map (·.id)).Nodup) : Order.asc.sort rows = (Order.desc.sort rows).reverse := by
  refine Order.sort_eq hn ((List.reverse_perm _).trans (Order.sort_perm .desc rows)) ?_
  rw [List.pairwise_reverse]
  exact (newestFirst_sort hn).imp fun h => Order.asc_allows.mpr h.le

end Sorting

end Pasteboard
