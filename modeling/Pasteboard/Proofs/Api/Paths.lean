import Pasteboard.Api.Router
import Pasteboard.Proofs.Text.Reading
/-!
The path of a route and the path that a request is told.

Both are ends of the path of the request, so the path of searches is told to searches only, with one exception: a
request for the root can be told it too, where the base path has a place that is part of a segment. Such a request is
one to store a slot if its method is `POST`, and the gate takes it for a search.
-/

namespace Pasteboard.Api

open Pasteboard.Http
open Pasteboard.Text

/-! ### Segments -/

namespace BasePath

theorem rest?_suffix (base path rest : List Char) (h : rest? base path = some rest) : rest <:+ path := by
  induction base, path using rest?.induct with
  | case1 path =>
    rw [rest?] at h
    cases h
    exact List.suffix_refl _
  | case2 => rw [rest?] at h; cases h
  | case3 base c path ih =>
    rw [rest?, if_pos rfl] at h
    exact (ih h).trans (List.dropWhile_suffix _)
  | case4 base c path hc ih =>
    rw [rest?, if_neg hc, if_pos rfl] at h
    exact (ih h).trans (List.suffix_cons _ _)
  | case5 b base c path hb hc =>
    rw [rest?, if_neg hb, if_neg hc] at h
    cases h

theorem segmentsAfter?_suffix (base path rest : List (List Char)) (h : segmentsAfter? base path = some rest) :
    rest <:+ path := by
  induction base, path using segmentsAfter?.induct with
  | case1 path =>
    rw [segmentsAfter?] at h
    cases h
    exact List.suffix_refl _
  | case2 => rw [segmentsAfter?] at h; cases h
  | case3 b base s path hb ih =>
    rw [segmentsAfter?, if_pos hb] at h
    exact (ih h).trans (List.suffix_cons _ _)
  | case4 b base s path hb hempty =>
    rw [segmentsAfter?, if_neg hb, if_pos hempty] at h
    cases h
    exact List.suffix_refl _
  | case5 b base s path hb hempty =>
    rw [segmentsAfter?, if_neg hb, if_neg hempty] at h
    cases h

/-- What is joined last ends the whole. -/
theorem suffix_intercalate (sep : List Char) {cs : List Char} {parts : List (List Char)} (h : [cs] <:+ parts) :
    cs <:+ sep.intercalate parts := by
  obtain ⟨front, rfl⟩ := h
  induction front with
  | nil => simp [List.intercalate]
  | cons part front ih =>
    obtain ⟨part', front', hcons⟩ : ∃ part' front', front ++ [cs] = part' :: front' := by
      cases front <;> simp
    have hjoin : sep.intercalate (part :: (front ++ [cs])) = part ++ sep ++ sep.intercalate (front ++ [cs]) := by
      rw [hcons]
      simp [List.intercalate]
    rw [List.cons_append, hjoin]
    exact ih.trans (List.suffix_append _ _)

/-! ### Ends of a path -/

/-- The path of a route below the base path ends the path of the request. -/
theorem below?_suffix {base path p : String} (h : below? base path = some p) :
    p = "/" ∨ p.toList <:+ path.toList := by
  unfold below? at h
  by_cases hbase : (base == "/") = true
  · rw [if_pos hbase] at h
    cases h
    exact Or.inr (List.suffix_refl _)
  · rw [if_neg hbase] at h
    split at h
    · cases h
      exact Or.inl rfl
    · cases h
    · rename_i rest hrest
      cases h
      exact Or.inr (by simpa using rest?_suffix _ _ _ hrest)
    · cases h

/-- Without a slash in it, what a request is told after the first slash ends its path. -/
theorem stripped_suffix {base path : String} {word : List Char} (hword : '/' ∉ word) (hne : word ≠ [])
    (h : (stripped base path).toList = '/' :: word) : word <:+ path.toList := by
  unfold stripped at h
  by_cases hbase : (base == "/") = true
  · rw [if_pos hbase] at h
    rw [h]
    exact List.suffix_cons _ _
  rw [if_neg hbase] at h
  cases hafter : segmentsAfter? (segments base) (segments path) with
  | none =>
    rw [hafter] at h
    dsimp only at h
    rw [h]
    exact List.suffix_cons _ _
  | some rest =>
    rw [hafter] at h
    have hjoin : ['/'].intercalate rest = word := by
      simpa [String.toList_append, String.toList_intercalate, Function.comp_def] using h
    -- The remaining segments are the word alone, which ends the path.
    have hrest : rest = [word] := by
      rcases rest with _ | ⟨part, _ | ⟨part', rest⟩⟩
      · exact absurd hjoin.symm hne
      · simpa [List.intercalate] using hjoin
      · refine absurd ?_ hword
        rw [← hjoin]
        simp [List.intercalate]
    have hsuffix := suffix_intercalate ['/'] (hrest ▸ segmentsAfter?_suffix _ _ _ hafter)
    rw [segments, intercalate_splitList] at hsuffix
    exact hsuffix.trans (List.drop_suffix _ _)

/-- The segments of the base path are taken off. -/
theorem segmentsAfter?_append (segs rest : List (List Char)) : segmentsAfter? segs (segs ++ rest) = some rest := by
  induction segs with
  | nil => rfl
  | cons seg segs ih => rw [List.cons_append, segmentsAfter?, if_pos (Or.inr rfl), ih]

/-- Without places in it, the base path is taken off a path as it stands. -/
theorem rest?_eq {base path rest : List Char} (hbase : ':' ∉ base) (h : rest? base path = some rest) :
    path = base ++ rest := by
  induction base generalizing path with
  | nil =>
    rw [rest?] at h
    cases h
    rfl
  | cons b base ih =>
    obtain ⟨hb, hbase⟩ := not_or.mp (mt List.mem_cons.mpr hbase)
    cases path with
    | nil => rw [rest?] at h; cases h
    | cons c path =>
      rw [rest?, if_neg (Ne.symm hb)] at h
      by_cases hc : b = c
      · rw [if_pos hc] at h
        rw [ih hbase h, hc, List.cons_append]
      · rw [if_neg hc] at h
        cases h

/-- Without places in the base path, a request for the root is told the root. -/
theorem stripped_of_root {base path : String} (hbase : ':' ∉ base.toList) (h : below? base path = some "/") :
    stripped base path = "/" := by
  unfold below? at h
  unfold stripped
  by_cases hslash : (base == "/") = true
  · rw [if_pos hslash] at h ⊢
    exact Option.some.inj h
  rw [if_neg hslash] at h ⊢
  have hrest : rest? base.toList path.toList = some [] := by
    split at h
    · assumption
    · cases h
    · rename_i rest _ hne hrest
      have hlist : rest = ['/'] := by simpa using congrArg String.toList (Option.some.inj h)
      exact absurd hlist hne
    · cases h
  have hpath : path = base := String.toList_inj.mp (by rw [rest?_eq hbase hrest, List.append_nil])
  have hself := segmentsAfter?_append (segments base) []
  rw [List.append_nil] at hself
  rw [hpath, hself]
  rfl

/-- Without places in the base path, a request is told what follows it, if that is not a second slash. -/
theorem stripped_of_below {base path p : String} {c : Char} {tail : List Char} (hbase : ':' ∉ base.toList)
    (h : below? base path = some p) (hp : p.toList = '/' :: c :: tail) (hc : c ≠ '/') : stripped base path = p := by
  unfold below? at h
  unfold stripped
  by_cases hslash : (base == "/") = true
  · rw [if_pos hslash] at h ⊢
    exact Option.some.inj h
  rw [if_neg hslash] at h ⊢
  have hrest : rest? base.toList path.toList = some p.toList := by
    split at h
    · cases Option.some.inj h
      cases hp
    · cases h
    · rename_i rest _ _ hrest
      rw [hrest, ← Option.some.inj h, String.toList_ofList]
    · cases h
  have hpath := rest?_eq hbase hrest
  have hsegments : segmentsAfter? (segments base) (segments path) = some (splitList (· == '/') (c :: tail)) := by
    rw [segments, segments, hpath, hp]
    cases base.toList with
    | nil =>
      obtain ⟨part, parts, hparts⟩ := List.exists_cons_of_ne_nil (splitList_ne_nil (· == '/') tail)
      have hsplit : splitList (· == '/') (c :: tail) = (c :: part) :: parts := by
        have hsep : (c == '/') = false := beq_eq_false_iff_ne.mpr hc
        rw [splitList, List.foldr_cons, ← splitList, hparts, hsep]
        rfl
      show segmentsAfter? [[]] (splitList _ (c :: tail)) = _
      rw [hsplit, segmentsAfter?, if_neg (by simp)]
      rfl
    | cons b base =>
      have hsplit : splitList (· == '/') (base ++ '/' :: c :: tail) =
          splitList (· == '/') base ++ splitList (· == '/') (c :: tail) := by
        rw [splitList_eq, splitList_eq, splitList_eq]
        exact List.splitOnP_append_cons base (c :: tail) rfl
      show segmentsAfter? (splitList _ base) (splitList _ (base ++ '/' :: c :: tail)) = _
      rw [hsplit, segmentsAfter?_append]
  rw [hsegments]
  apply String.toList_inj.mp
  simp only [String.toList_append, String.toList_intercalate, List.map_map, Function.comp_def, String.toList_ofList,
    List.map_id']
  rw [hp]
  exact congrArg ('/' :: ·) (intercalate_splitList '/' (c :: tail))

end BasePath

/-! ### Routes -/

theorem Route.path_of_ofPath? {p : String} {route : Route} (h : ofPath? p = some route) : p = route.path := by
  have hsel := List.find?_some h
  exact (beq_iff_eq.mp hsel).symm

section
variable {s : Settings} {r : Request} {route : Route}

/-- The route that a request is for. -/
def routeOf? (s : Settings) (r : Request) : Option Route :=
  (BasePath.below? s.basePath r.target.path).bind Route.ofPath?

/-- The request with the path that it is told. -/
def told (s : Settings) (r : Request) : Request :=
  { r with target := { r.target with path := BasePath.stripped s.basePath r.target.path } }

/-- A request to store a slot that is told the path of searches. -/
structure Disguised (s : Settings) (r : Request) : Prop where
  posts : r.method = "POST"
  atRoot : routeOf? s r = some .root
  asSearch : (told s r).target.path = "/search"

theorem routeOf?_eq_some (h : routeOf? s r = some route) :
    BasePath.below? s.basePath r.target.path = some route.path := by
  obtain ⟨p, hbelow, hpath⟩ := Option.bind_eq_some_iff.mp h
  rw [hbelow, Route.path_of_ofPath? hpath]

/-- Only a search, or a request for the root, is told the path of searches. -/
theorem told_search (h : routeOf? s r = some route) (htold : (told s r).target.path = "/search") :
    route = .search ∨ route = .root := by
  have hsearch : "search".toList <:+ r.target.path.toList :=
    BasePath.stripped_suffix (by decide) (by decide) (congrArg String.toList htold)
  rcases BasePath.below?_suffix (routeOf?_eq_some h) with hroot | hroute
  · right
    cases route <;> first | rfl | exact absurd hroot (by decide)
  · -- Of two ends of one path, one ends the other.
    rcases List.suffix_or_suffix_of_suffix hsearch hroute with hends | hends
    all_goals
      cases route <;> first | exact Or.inl rfl | exact Or.inr rfl | exact absurd hends (by decide)

/-- What the gate takes for a read is a read, unless it is disguised. -/
theorem isRead_of_told (h : routeOf? s r = some route)
    (hread : Gate.isRead r.method (told s r).target.path = true) :
    Gate.isRead r.method route.path = true ∨ Disguised s r := by
  by_cases hpost : r.method = "POST"
  · have htold : (told s r).target.path = "/search" := by simpa [Gate.isRead, hpost] using hread
    rcases told_search h htold with rfl | rfl
    · exact Or.inl (by simp [Gate.isRead, hpost, Route.path])
    · exact Or.inr ⟨hpost, h, htold⟩
  · exact Or.inl (by simpa [Gate.isRead, hpost] using hread)

/-- Without places in the base path a request is told the path of its route. -/
theorem told_path (hbase : ':' ∉ s.basePath.toList) (h : routeOf? s r = some route) :
    (told s r).target.path = route.path := by
  have hbelow := routeOf?_eq_some h
  have hpath : route.path = "/" ∨ ∃ c tail, route.path.toList = '/' :: c :: tail ∧ c ≠ '/' := by
    cases route <;> first | exact Or.inl rfl | exact Or.inr ⟨_, _, rfl, by decide⟩
  rcases hpath with hroot | ⟨c, tail, hlist, hc⟩
  · rw [hroot] at hbelow ⊢
    exact BasePath.stripped_of_root hbase hbelow
  · exact BasePath.stripped_of_below hbase hbelow hlist hc

/-- Without places in the base path no request is disguised. -/
theorem not_disguised (hbase : ':' ∉ s.basePath.toList) (r : Request) : ¬Disguised s r := by
  rintro ⟨-, hroot, htold⟩
  exact absurd ((told_path hbase hroot).symm.trans htold) (by decide)

end

end Pasteboard.Api
