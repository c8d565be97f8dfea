import Mathlib.Data.List.Basic
import Mathlib.Data.List.Forall2
import Mathlib.Data.List.TakeWhile
import Pasteboard.Search.Pattern
/-!
Search by substring finds the texts that contain the query.

In the pattern of a query every character stands for itself, those that have a meaning in patterns too, so a match of
what stands between the two outer `%` is a letter by letter copy of the query. Letters are compared up to ASCII case,
and as they are read: the noncharacters U+FFFE and U+FFFF are not told apart from U+FFFD.
-/

namespace Pasteboard.Search

variable {c : Char} {cs ds pattern : List Char} {p : List Char → Bool}

/-! ### Matching -/

theorem anywhere_iff : anywhere p cs = true ↔ ∃ x y, cs = x ++ y ∧ p y = true := by
  induction cs with
  | nil =>
    constructor
    · exact fun h => ⟨[], [], rfl, h⟩
    · rintro ⟨x, y, hxy, hp⟩
      obtain ⟨rfl, rfl⟩ := List.nil_eq_append_iff.mp hxy
      exact hp
  | cons c cs ih =>
    rw [anywhere, Bool.or_eq_true, ih]
    constructor
    · rintro (h | ⟨x, y, rfl, hp⟩)
      · exact ⟨[], _, rfl, h⟩
      · exact ⟨c :: x, y, rfl, hp⟩
    · rintro ⟨_ | ⟨d, x⟩, y, hxy, hp⟩
      · exact Or.inl (by rwa [hxy])
      · obtain ⟨rfl, rfl⟩ := List.cons_eq_cons.mp hxy
        exact Or.inr ⟨x, y, rfl, hp⟩

theorem nextIs_iff : nextIs c p cs = true ↔ ∃ d rest, cs = d :: rest ∧ sameLetter c d = true ∧ p rest = true := by
  cases cs with
  | nil => simp [nextIs]
  | cons d rest => simp [nextIs]

/-- A character of the query stands for itself. -/
theorem likeChars_literally (c : Char) (pattern : List Char) :
    likeChars (literally c ++ pattern) = nextIs c (likeChars pattern) := by
  rw [literally]
  by_cases hc : c = '%' ∨ c = '_' ∨ c = '\\'
  · rw [if_pos hc]
    rfl
  · obtain ⟨hpercent, hunderscore, hbackslash⟩ := not_or.mp hc |>.imp_right not_or.mp
    rw [if_neg hc, List.singleton_append, likeChars]
    all_goals simp_all

/-- What stands before the last `%` of a pattern is matched by a beginning of the text. -/
theorem likeChars_begins : likeChars (cs.flatMap literally ++ ['%']) ds = true ↔
    ∃ y z, ds = y ++ z ∧ List.Forall₂ (fun a b => sameLetter a b = true) cs y := by
  induction cs generalizing ds with
  | nil =>
    have hmatch : likeChars ['%'] ds = true := anywhere_iff.mpr ⟨ds, [], (List.append_nil ds).symm, rfl⟩
    exact ⟨fun _ => ⟨[], ds, rfl, .nil⟩, fun _ => hmatch⟩
  | cons c cs ih =>
    rw [List.flatMap_cons, List.append_assoc, likeChars_literally, nextIs_iff]
    constructor
    · rintro ⟨d, rest, rfl, hcd, hrest⟩
      obtain ⟨y, z, rfl, hy⟩ := ih.mp hrest
      exact ⟨d :: y, z, rfl, .cons hcd hy⟩
    · rintro ⟨_, z, rfl, hcd | ⟨hcd, hy⟩⟩
      exact ⟨_, _, rfl, hcd, ih.mpr ⟨_, z, rfl, hy⟩⟩

/-! ### As characters are read -/

theorem beforeNul_eq (h : '\x00' ∉ cs) : beforeNul cs = cs := by
  refine List.takeWhile_eq_self_iff.mpr fun c hc => ?_
  have hne : c.toNat ≠ 0 := fun hzero => h ((Char.toNat_inj.mp hzero : c = '\x00') ▸ hc)
  simpa using hne

theorem map_asRead_literally (c : Char) : (literally c).map asRead = literally (asRead c) := by
  by_cases hc : c = '\ufffe' ∨ c = '\uffff'
  · rcases hc with rfl | rfl <;> rfl
  · have hread : asRead c = c := if_neg hc
    rw [hread, literally]
    split
    · rw [List.map_cons, List.map_singleton, hread]
      rfl
    · rw [List.map_singleton, hread]

theorem mem_literally {d : Char} (h : d ∈ literally c) : d = c ∨ d = '\\' := by
  rw [literally] at h
  split at h <;> simp_all [or_comm]

theorem compared_containing {raw : String} (h : '\x00' ∉ raw.toList) :
    compared (containing raw) = '%' :: ((raw.toList.map asRead).flatMap literally ++ ['%']) := by
  have hliterally : '\x00' ∉ raw.toList.flatMap literally := fun hmem => by
    obtain ⟨c, hc, hnul⟩ := List.mem_flatMap.mp hmem
    rcases mem_literally hnul with rfl | hbackslash
    · exact h hc
    · cases hbackslash
  have hnul : '\x00' ∉ ('%' :: raw.toList.flatMap literally) ++ ['%'] := by
    simp only [List.cons_append, List.mem_cons, List.mem_append, not_or]
    exact ⟨nofun, hliterally, nofun, nofun⟩
  rw [compared, containing, String.toList_ofList, beforeNul_eq hnul, List.cons_append, List.map_cons, List.map_append,
    List.map_flatMap, List.flatMap_map]
  simp only [map_asRead_literally]
  rfl

/-- A text is found if it contains the query up to ASCII case, as both are read. -/
theorem like_containing_iff {raw content : String} (hraw : '\x00' ∉ raw.toList) (hcontent : '\x00' ∉ content.toList) :
    like (containing raw) content = true ↔ ∃ x y z, content.toList = x ++ y ++ z ∧
      List.Forall₂ (fun a b => sameLetter (asRead a) (asRead b) = true) raw.toList y := by
  rw [like, compared_containing hraw, compared, beforeNul_eq hcontent, likeChars, anywhere_iff]
  simp only [likeChars_begins, List.forall₂_map_left_iff]
  constructor
  · rintro ⟨x, rest, htext, y, z, rfl, hy⟩
    obtain ⟨x, rest, hcut, rfl, hrest⟩ := List.map_eq_append_iff.mp htext
    obtain ⟨y, z, rfl, rfl, rfl⟩ := List.map_eq_append_iff.mp hrest
    exact ⟨x, y, z, by rw [hcut, List.append_assoc], List.forall₂_map_right_iff.mp hy⟩
  · rintro ⟨x, y, z, htext, hy⟩
    refine ⟨x.map asRead, (y ++ z).map asRead, ?_, y.map asRead, z.map asRead, List.map_append, ?_⟩
    · rw [htext, List.append_assoc, List.map_append]
    · exact List.forall₂_map_right_iff.mpr hy

/-- Characters that have a meaning in patterns are searched for like any other. -/
theorem like_containing_percent : '\x00' ∉ "a%_\\".toList ∧ '\x00' ∉ "xA%_\\".toList ∧
    like (containing "a%_\\") "xA%_\\" = true := by
  refine ⟨by decide, by decide, (like_containing_iff (by decide) (by decide)).mpr ?_⟩
  exact ⟨['x'], ['A', '%', '_', '\\'], [], by decide, by decide⟩

/-- A noncharacter is found in a text that does not contain it. -/
theorem noncharacters_are_alike : like (containing "\uffff") "\ufffe" = true ∧
    ¬∃ x y z, "\ufffe".toList = x ++ y ++ z ∧ List.Forall₂ (fun a b => sameLetter a b = true) "\uffff".toList y := by
  refine ⟨by decide +kernel, ?_⟩
  rintro ⟨x, _, z, htext, hy⟩
  obtain ⟨d, rest, hsame, -, rfl⟩ := List.forall₂_cons_left_iff.mp hy
  have hd : d ∈ "\ufffe".toList := htext ▸ by simp
  obtain rfl : d = '\ufffe' := List.mem_singleton.mp hd
  exact absurd hsame (by decide)

end Pasteboard.Search
