import Pasteboard.Proofs.Slots.Recency
import Pasteboard.Store.Slots
/-!
What a page of a listing shows.

The rows past a cursor are those that the filter lets through and that stand behind it in the order, because the
conditions of a filter use up exactly the values bound to them. A page is the front of the rows in order, so what it
leaves out stands behind everything that it shows.
-/

namespace Pasteboard

/-! ### Places in an order -/

/-- Whether one place of a listing comes before another. -/
def Order.before (o : Order) (c d : Cursor) : Prop :=
  match o with
  | .desc => d.createdAt < c.createdAt ∨ d.createdAt = c.createdAt ∧ d.id < c.id
  | .asc => c.createdAt < d.createdAt ∨ c.createdAt = d.createdAt ∧ c.id < d.id

/-- The place of a row in listings. -/
def Row.cursor (r : Row) : Cursor := r.record.cursor

/-- Whether a place stands behind a position. -/
def Position.admits (o : Order) : Position → Cursor → Prop
  | .offset _, _ => True
  | .after c, d => o.before c d

namespace Order
variable {o : Order} {c d e : Cursor} {r t : Row} {rows : List Row}

theorem before_trans (h : o.before c d) (h' : o.before d e) : o.before c e := by
  cases o <;> simp only [before] at * <;> omega

theorem before_asymm (h : o.before c d) : ¬o.before d c := by
  cases o <;> simp only [before] at * <;> omega

theorem before_irrefl (o : Order) (c : Cursor) : ¬o.before c c := fun h => before_asymm h h

/-- Rows with a time that may stand in this order do so by their places, if their ids differ. -/
theorem before_of_allows {m n : Int} (hr : r.createdAt = some m) (ht : t.createdAt = some n) (hne : r.id ≠ t.id)
    (h : o.allows r t = true) : o.before r.cursor t.cursor := by
  have hplace : r.place ≠ t.place := fun he => hne (Row.id_eq_of_place he)
  cases o with
  | desc =>
    have hlt := (Row.place_lt_iff ht hr).mp (lt_of_le_of_ne (desc_allows.mp h) hplace.symm)
    simpa [before, Row.cursor, Record.cursor, Row.record, hr, ht] using hlt
  | asc =>
    have hlt := (Row.place_lt_iff hr ht).mp (lt_of_le_of_ne (asc_allows.mp h) hplace)
    simpa [before, Row.cursor, Record.cursor, Row.record, hr, ht] using hlt

theorem sort_before (hn : (rows.map (·.id)).Nodup) (htimed : ∀ r ∈ rows, ∃ t, r.createdAt = some t) :
    (o.sort rows).Pairwise fun r t => o.before r.cursor t.cursor := by
  have hperm := sort_perm o rows
  have hids : ((o.sort rows).map (·.id)).Nodup := (hperm.map _).nodup_iff.mpr hn
  refine ((sort_pairwise o rows).and (List.pairwise_map.mp hids)).imp_of_mem ?_
  rintro r t hr ht ⟨hallows, hne⟩
  obtain ⟨m, hm⟩ := htimed r (hperm.mem_iff.mp hr)
  obtain ⟨n, hn⟩ := htimed t (hperm.mem_iff.mp ht)
  exact before_of_allows hm hn hne hallows

end Order

/-! ### Conditions -/

theorem and3_true (x : Option Bool) : and3 (some true) x = x := by
  rcases x with _ | _ | _ <;> rfl

theorem and3_true_right (x : Option Bool) : and3 x (some true) = x := by
  rcases x with _ | _ | _ <;> rfl

theorem and3_assoc (x y z : Option Bool) : and3 (and3 x y) z = and3 x (and3 y z) := by
  rcases x with _ | _ | _ <;> rcases y with _ | _ | _ <;> rcases z with _ | _ | _ <;> rfl

theorem and3_eq_true {x y : Option Bool} : and3 x y = some true ↔ x = some true ∧ y = some true := by
  rcases x with _ | _ | _ <;> rcases y with _ | _ | _ <;> decide

/-- A condition that uses the given values, no more and no fewer. -/
def Condition.Uses (c : Condition) (values : List Cell) : Prop :=
  ∀ cells more, c.eval cells (values ++ more) = ((c.eval cells values).1, more)

/-- A predicate whose conditions use the values bound to it, no more and no fewer. -/
def Predicate.Closed (p : Predicate) : Prop :=
  ∀ cells clauses values, evalAll cells (p.clauses ++ clauses) (p.bound ++ values) =
    and3 (evalAll cells p.clauses p.bound) (evalAll cells clauses values)

namespace Predicate.Closed
variable {p : Predicate} {clause : Condition} {values : List Cell}

theorem none : Closed ⟨[], []⟩ := fun _ _ _ => (and3_true _).symm

theorem evalAll_add (hp : p.Closed) (cells : Column → Cell) :
    evalAll cells (p.add clause values).clauses (p.add clause values).bound =
      and3 (evalAll cells p.clauses p.bound) (clause.eval cells values).1 := by
  rw [Predicate.add, hp]
  exact congrArg _ (and3_true_right _)

theorem add (hp : p.Closed) (hc : clause.Uses values) : (p.add clause values).Closed := by
  intro cells clauses more
  have hrest : evalAll cells (clause :: clauses) (values ++ more) =
      and3 (clause.eval cells values).1 (evalAll cells clauses more) := by
    rw [evalAll, hc]
  rw [hp.evalAll_add, Predicate.add, List.append_assoc, List.append_assoc, hp, List.singleton_append, hrest, and3_assoc]

end Predicate.Closed

theorem Filter.predicate_closed (f : Filter) : f.predicate.Closed := by
  have hactive : (Condition.test .isActive .eq (.lit 1)).Uses [] := fun _ _ => rfl
  have hcolumn (c : Column) (v : Cell) : (Condition.test c .eq .place).Uses [v] := fun _ _ => rfl
  unfold Filter.predicate
  cases f.includeInactive <;> cases f.isFile <;> cases f.mime <;> cases f.filename
  all_goals
    simp only [if_true, if_false, Bool.false_eq_true]
    repeat' apply Predicate.Closed.add
    all_goals first | exact hactive | exact hcolumn _ _ | exact .none

/-- The condition of standing past a cursor holds of the rows that stand behind it. -/
theorem Order.past_iff {o : Order} {c : Cursor} {r : Row} {t : Int} (hr : r.createdAt = some t) :
    (o.past.eval r.cell [.int c.createdAt, .int c.createdAt, .int c.id]).1 = some true ↔ o.before c r.cursor := by
  have htime : r.cell .createdAt = .int t := by rw [Row.cell, hr]; rfl
  have hid : r.cell .id = .int r.id := rfl
  have hcursor : r.cursor = ⟨t, r.id⟩ := by simp [Row.cursor, Record.cursor, Row.record, hr]
  rw [hcursor]
  cases o with
  | desc =>
    simp only [past, Condition.eval, htime, hid, Relation.holds, before]
    rcases lt_trichotomy t c.createdAt with h | rfl | h
    · simp [h, or3]
    · by_cases hlt : r.id < c.id <;> simp [hlt, or3, and3]
    · simp [h.not_gt, h.ne', or3, and3]
  | asc =>
    simp only [past, Condition.eval, htime, hid, Relation.holds, before]
    rcases lt_trichotomy c.createdAt t with h | rfl | h
    · simp [h, or3]
    · by_cases hlt : c.id < r.id <;> simp [hlt, or3, and3]
    · simp [h.not_gt, h.ne, h.ne', or3, and3]

/-- A filter selects past a cursor what it selects and what the condition of standing past it is true of. -/
theorem Filter.selects_past_iff {f : Filter} {c : Cursor} {r : Row} : (f.predicateAfter (some c)).selects r = true ↔
    f.predicate.selects r = true ∧
      (f.order.past.eval r.cell [.int c.createdAt, .int c.createdAt, .int c.id]).1 = some true := by
  rw [predicateAfter, Predicate.selects, f.predicate_closed.evalAll_add, beq_iff_eq, and3_eq_true, Predicate.selects,
    beq_iff_eq]

/-- A filter selects past a position what it selects and what stands behind the position. -/
theorem Filter.selects_after_iff {f : Filter} {position : Position} {r : Row} {t : Int} (hr : r.createdAt = some t) :
    (f.predicateAfter position.split.1).selects r = true ↔
      f.predicate.selects r = true ∧ position.admits f.order r.cursor := by
  cases position with
  | offset n => simp [Position.split, predicateAfter, Position.admits]
  | after c =>
    rw [Position.split, selects_past_iff, Order.past_iff hr]
    rfl

/-! ### Pages -/

/-- The rows that a filter lets through from a position on, in its order. -/
def Filter.remaining (f : Filter) (position : Position) (rows : List Row) : List Row :=
  f.order.sort (rows.filter (f.predicateAfter position.split.1).selects)

namespace Filter
variable {f : Filter} {position : Position} {rows : List Row} {r : Row} {n : Nat}

/-- Where no rows are left out, a page is the front of the remaining rows. -/
theorem page_eq (hskip : position.split.2 = 0) :
    f.page (fun _ => true) n position rows = (f.remaining position rows).take n := by
  rw [page, remaining]
  dsimp only
  simp only [hskip, List.drop_zero, Bool.and_true]

theorem mem_remaining (htimed : ∀ r ∈ rows, ∃ t, r.createdAt = some t) : r ∈ f.remaining position rows ↔
    r ∈ rows ∧ f.predicate.selects r = true ∧ position.admits f.order r.cursor := by
  rw [remaining, (Order.sort_perm _ _).mem_iff, List.mem_filter]
  refine and_congr_right fun hr => ?_
  obtain ⟨t, ht⟩ := htimed r hr
  exact selects_after_iff ht

theorem remaining_sorted (hn : (rows.map (·.id)).Nodup) (htimed : ∀ r ∈ rows, ∃ t, r.createdAt = some t) :
    (f.remaining position rows).Pairwise fun r t => f.order.before r.cursor t.cursor :=
  Order.sort_before (hn.sublist (List.filter_sublist.map _)) fun r hr => htimed r (List.mem_of_mem_filter hr)

/-- What a page leaves out stands behind everything that it shows, and the page is full. -/
theorem left_out (hn : (rows.map (·.id)).Nodup) (htimed : ∀ r ∈ rows, ∃ t, r.createdAt = some t)
    (hr : r ∈ f.remaining position rows) (hout : r ∉ (f.remaining position rows).take n) :
    ((f.remaining position rows).take n).length = n ∧
      ∀ q ∈ (f.remaining position rows).take n, f.order.before q.cursor r.cursor := by
  have hsorted : (f.remaining position rows).Pairwise fun r t => f.order.before r.cursor t.cursor :=
    remaining_sorted hn htimed
  rw [← List.take_append_drop n (f.remaining position rows)] at hr hsorted
  have hdrop := (List.mem_append.mp hr).resolve_left hout
  refine ⟨?_, fun q hq => (List.pairwise_append.mp hsorted).2.2 q hq r hdrop⟩
  have hlt : n < (f.remaining position rows).length := by
    by_contra hle
    rw [List.drop_eq_nil_of_le (not_lt.mp hle)] at hdrop
    cases hdrop
  rw [List.length_take, Nat.min_eq_left hlt.le]

end Filter

end Pasteboard
