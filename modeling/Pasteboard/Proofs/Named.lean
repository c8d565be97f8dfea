import Mathlib.Data.List.Perm.Basic
import Pasteboard.Named
/-!
What stands under a name.

While names are distinct, what is looked up is what is listed, whatever the order. Putting a value under a name is an
update at that name.
-/

namespace Pasteboard.Named

variable {α : Type} {l l' more : List (String × α)} {name other : String} {value : α}

theorem lookup_cons_of_ne (h : name ≠ other) : ((other, value) :: l).lookup name = l.lookup name := by
  rw [List.lookup_cons, beq_eq_false_iff_ne.mpr h]

theorem lookup_eq_none : l.lookup name = none ↔ name ∉ l.map (·.1) := by
  rw [List.lookup_eq_none_iff, List.mem_map]
  constructor
  · rintro hall ⟨e, he, rfl⟩
    exact absurd (hall e he) (by simp)
  · intro hmiss e he
    exact bne_iff_ne.mpr fun hname => hmiss ⟨e, he, hname.symm⟩

/-! ### Distinct names -/

theorem lookup_eq_some_iff (hnames : (l.map (·.1)).Nodup) : l.lookup name = some value ↔ (name, value) ∈ l := by
  induction l with
  | nil => simp
  | cons e l ih =>
    obtain ⟨key, v⟩ := e
    obtain ⟨hfresh, hnames⟩ := List.nodup_cons.mp hnames
    by_cases hkey : name = key
    · subst hkey
      have hmiss : (name, value) ∉ l := fun hmem => hfresh (List.mem_map.mpr ⟨_, hmem, rfl⟩)
      rw [List.lookup_cons_self]
      simp [hmiss, eq_comm]
    · rw [lookup_cons_of_ne hkey, ih hnames]
      simp [hkey]

theorem lookup_perm (hnames : (l.map (·.1)).Nodup) (h : l'.Perm l) : l'.lookup name = l.lookup name := by
  have hnames' : (l'.map (·.1)).Nodup := (h.map _).nodup_iff.mpr hnames
  ext value
  rw [lookup_eq_some_iff hnames', lookup_eq_some_iff hnames, h.mem_iff]

/-! ### Putting -/

theorem put_of_not_mem (h : name ∉ l.map (·.1)) : put l name value = l ++ [(name, value)] := by
  have hany : l.any (·.1 == name) = false := by
    rw [List.any_eq_false]
    intro e he hname
    exact h (List.mem_map.mpr ⟨e, he, beq_iff_eq.mp hname⟩)
  rw [put, hany]
  rfl

theorem lookup_replaced (l : List (String × α)) (key : String) (v : α) (name : String) :
    (l.map fun e => if e.1 == key then (key, v) else e).lookup name =
      if name = key then (l.lookup key).map fun _ => v else l.lookup name := by
  induction l with
  | nil => simp
  | cons e l ih =>
    obtain ⟨k, u⟩ := e
    rw [List.map_cons]
    by_cases hk : k = key
    · subst hk
      rw [if_pos (beq_self_eq_true _), List.lookup_cons_self]
      by_cases hname : name = k
      · rw [if_pos hname, hname, List.lookup_cons_self, Option.map_some]
      · rw [if_neg hname, lookup_cons_of_ne hname, ih, if_neg hname, lookup_cons_of_ne hname]
    · rw [if_neg (mt beq_iff_eq.mp hk), lookup_cons_of_ne (Ne.symm hk)]
      by_cases hname : name = k
      · subst hname
        rw [if_neg hk, List.lookup_cons_self, List.lookup_cons_self]
      · rw [lookup_cons_of_ne hname, ih, lookup_cons_of_ne hname]

/-- Putting is an update at a name. -/
theorem lookup_put (l : List (String × α)) (key : String) (v : α) (name : String) :
    (put l key v).lookup name = if name = key then some v else l.lookup name := by
  by_cases hkey : key ∈ l.map (·.1)
  · obtain ⟨e, he, hname⟩ := List.mem_map.mp hkey
    have hany : l.any (·.1 == key) = true := List.any_eq_true.mpr ⟨e, he, beq_iff_eq.mpr hname⟩
    obtain ⟨u, hu⟩ := Option.ne_none_iff_exists'.mp fun hnone => lookup_eq_none.mp hnone hkey
    rw [put, if_pos hany, lookup_replaced, hu, Option.map_some]
  · rw [put_of_not_mem hkey, List.lookup_append]
    by_cases hname : name = key
    · rw [if_pos hname, hname, lookup_eq_none.mpr hkey, List.lookup_cons_self, Option.none_or]
    · rw [if_neg hname, lookup_cons_of_ne hname, List.lookup_nil, Option.or_none]

/-- Of values that are put one after the other, the last one under a name counts. -/
theorem lookup_putAll (l more : List (String × α)) (name : String) :
    (putAll l more).lookup name = (more.reverse.lookup name).or (l.lookup name) := by
  induction more generalizing l with
  | nil => rw [putAll_nil, List.reverse_nil, List.lookup_nil, Option.none_or]
  | cons e more ih =>
    obtain ⟨key, v⟩ := e
    have hcons : putAll l ((key, v) :: more) = putAll (put l key v) more := rfl
    rw [hcons, ih, List.reverse_cons, List.lookup_append, Option.or_assoc, lookup_put]
    by_cases hname : name = key
    · rw [if_pos hname, hname, List.lookup_cons_self, Option.some_or]
    · rw [if_neg hname, lookup_cons_of_ne hname, List.lookup_nil, Option.none_or]

theorem lookup_putAll_of_nodup (l : List (String × α)) (hnames : (more.map (·.1)).Nodup) (name : String) :
    (putAll l more).lookup name = (more.lookup name).or (l.lookup name) := by
  rw [lookup_putAll, lookup_perm hnames more.reverse_perm]

/-- Under new and distinct names, values are put at the end. -/
theorem putAll_of_nodup (h : ((l ++ more).map (·.1)).Nodup) : putAll l more = l ++ more := by
  induction more generalizing l with
  | nil => rw [putAll_nil, List.append_nil]
  | cons e more ih =>
    obtain ⟨key, v⟩ := e
    have hfresh : key ∉ l.map (·.1) := by
      rw [List.map_append, List.map_cons] at h
      exact fun hkey => (List.nodup_append.mp h).2.2 key hkey key (.head _) rfl
    rw [List.append_cons] at h ⊢
    rw [← ih h, putAll, List.foldl_cons, put_of_not_mem hfresh]
    rfl

end Pasteboard.Named
