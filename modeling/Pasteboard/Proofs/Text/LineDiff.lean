import Pasteboard.Proofs.Text.Clip
import Pasteboard.Proofs.Text.Reading
import Pasteboard.Text.LineDiff
/-!
A line diff is a clip of the lines that differ.

The lines of a text hold no newlines, and only they give the text when they are joined. The lines of two texts have a
longest common beginning and, in what remains, a longest common end. What is between them is listed, the old lines
before the new ones. The lines are written only until the cap is reached, which no clip can tell: it does not depend on
what stands behind as many bytes as there is room for.
-/

namespace Pasteboard.Text.LineDiff

/-- What is between the longest common beginning of two lists and the longest common end of what remains of them. -/
structure Between {α : Type} (first last old new o n : List α) : Prop where
  old_eq : old = first ++ (o ++ last)
  new_eq : new = first ++ (n ++ last)
  longest_first : ∀ xs, xs <+: old → xs <+: new → xs <+: first
  longest_last : ∀ xs, xs <:+ o ++ last → xs <:+ n ++ last → xs <:+ last

/-- The text of a change: each old line behind a minus, then each new one behind a plus, all ended by newlines. -/
def changes (old new : List String) : String :=
  String.join (old.map (marked '-')) ++ String.join (new.map (marked '+'))

/-! ### Common lines -/

section Common
variable {α : Type} {first last old new o n : List α}

theorem Between.swap (h : Between first last old new o n) : Between first last new old n o where
  old_eq := h.new_eq
  new_eq := h.old_eq
  longest_first xs ho hn := h.longest_first xs hn ho
  longest_last xs ho hn := h.longest_last xs hn ho

/-- Nothing is between a list and itself only. -/
theorem Between.nil_iff (h : Between first last old new o n) : (o = [] ∧ n = []) ↔ old = new := by
  constructor
  · rintro ⟨rfl, rfl⟩
    rw [h.old_eq, h.new_eq]
  · rintro rfl
    have hfirst : first = old := by
      have hle := (h.longest_first old List.prefix_rfl List.prefix_rfl).length_le
      exact List.IsPrefix.eq_of_length_le ⟨_, h.old_eq.symm⟩ hle
    have ho := h.old_eq
    have hn := h.new_eq
    rw [hfirst] at ho hn
    have hnil {xs : List α} (hxs : old = old ++ (xs ++ last)) : xs = [] :=
      (List.append_eq_nil_iff.mp (List.self_eq_append_right.mp hxs)).1
    exact ⟨hnil ho, hnil hn⟩

variable [DecidableEq α]

theorem exists_common (as bs : List α) : ∃ first,
    as = first ++ (dropCommon as bs).1 ∧ bs = first ++ (dropCommon as bs).2 ∧
    ∀ xs, xs <+: as → xs <+: bs → xs <+: first := by
  induction as generalizing bs with
  | nil => exact ⟨[], rfl, by simp [dropCommon], fun _ ha _ => ha⟩
  | cons a as ih =>
    cases bs with
    | nil => exact ⟨[], rfl, rfl, fun _ _ hb => hb⟩
    | cons b bs =>
      by_cases hab : a = b
      · subst hab
        obtain ⟨first, ha, hb, hlongest⟩ := ih bs
        rw [dropCommon, if_pos rfl]
        refine ⟨a :: first, congrArg (a :: ·) ha, congrArg (a :: ·) hb, fun xs hxa hxb => ?_⟩
        rcases List.prefix_cons_iff.mp hxa with rfl | ⟨xs, rfl, hxa'⟩
        · exact List.nil_prefix
        · obtain ⟨-, hxb⟩ := List.cons_prefix_cons.mp hxb
          exact List.cons_prefix_cons.mpr ⟨rfl, hlongest xs hxa' hxb⟩
      · rw [dropCommon, if_neg hab]
        refine ⟨[], rfl, rfl, fun xs hxa hxb => ?_⟩
        rcases List.prefix_cons_iff.mp hxa with rfl | ⟨xs, rfl, -⟩
        · exact List.nil_prefix
        · exact absurd (List.cons_prefix_cons.mp hxb).1 hab

theorem between_middles (old new : List α) :
    ∃ first last, Between first last old new (middles old new).1 (middles old new).2 := by
  obtain ⟨first, hold, hnew, hfirst⟩ := exists_common old new
  obtain ⟨back, ho, hn, hback⟩ := exists_common (dropCommon old new).1.reverse (dropCommon old new).2.reverse
  have hreverse {xs ys : List α} (h : xs.reverse = back ++ ys) : xs = ys.reverse ++ back.reverse := by
    rw [← List.reverse_append, ← h, List.reverse_reverse]
  have ho' := hreverse ho
  have hn' := hreverse hn
  refine ⟨first, back.reverse, ?_, ?_, hfirst, fun xs hxo hxn => ?_⟩
  · rw [middles, ← ho', ← hold]
  · rw [middles, ← hn', ← hnew]
  · rw [middles, ← ho'] at hxo
    rw [middles, ← hn'] at hxn
    exact List.reverse_prefix.mp ((List.reverse_reverse back).symm ▸
      hback xs.reverse (List.reverse_prefix.mpr hxo) (List.reverse_prefix.mpr hxn))

/-- What is between is determined by the two lists. -/
theorem Between.middles_eq (h : Between first last old new o n) : middles old new = (o, n) := by
  obtain ⟨first', last', h'⟩ := between_middles old new
  have prefix_unique {xs ys : List α} (hx : xs <+: ys) (hy : ys <+: xs) : xs = ys := hx.eq_of_length_le hy.length_le
  have hfirst : first' = first := prefix_unique
    (h.longest_first first' ⟨_, h'.old_eq.symm⟩ ⟨_, h'.new_eq.symm⟩)
    (h'.longest_first first ⟨_, h.old_eq.symm⟩ ⟨_, h.new_eq.symm⟩)
  subst hfirst
  have ho : (middles old new).1 ++ last' = o ++ last := List.append_cancel_left (h'.old_eq.symm.trans h.old_eq)
  have hn : (middles old new).2 ++ last' = n ++ last := List.append_cancel_left (h'.new_eq.symm.trans h.new_eq)
  have hlast : last' = last := by
    have hle := h.longest_last last' (ho ▸ List.suffix_append _ _) (hn ▸ List.suffix_append _ _)
    exact hle.eq_of_length_le
      (h'.longest_last last (ho ▸ List.suffix_append _ _) (hn ▸ List.suffix_append _ _)).length_le
  subst hlast
  exact Prod.ext (List.append_cancel_right ho) (List.append_cancel_right hn)

end Common

/-! ### Lines -/

theorem map_toList_lines (s : String) : (lines s).map String.toList = splitList (· == '\n') s.toList := by
  simp [lines, Function.comp_def]

/-- A text is its lines, joined by newlines. -/
theorem toList_eq_lines (s : String) : s.toList = ['\n'].intercalate ((lines s).map String.toList) := by
  rw [map_toList_lines, intercalate_splitList]

/-- No line holds a newline. -/
theorem not_mem_of_mem_lines {s line : String} (h : line ∈ lines s) : '\n' ∉ line.toList := by
  have hpart : line.toList ∈ splitList (· == '\n') s.toList := map_toList_lines s ▸ List.mem_map_of_mem h
  intro hnewline
  cases not_of_mem_splitList hpart '\n' hnewline

/-- The lines of a text are the only texts without newlines that give it when they are joined by newlines. -/
theorem lines_eq_iff {s : String} {ls : List String} : lines s = ls ↔
    ls ≠ [] ∧ (∀ line ∈ ls, '\n' ∉ line.toList) ∧ s.toList = ['\n'].intercalate (ls.map String.toList) := by
  constructor
  · rintro rfl
    refine ⟨?_, fun line hline => not_mem_of_mem_lines hline, toList_eq_lines s⟩
    exact mt List.map_eq_nil_iff.mp (splitList_ne_nil _ _)
  · rintro ⟨hne, hnone, hjoined⟩
    have hparts : splitList (· == '\n') s.toList = ls.map String.toList := by
      rw [splitList_eq, ← List.splitOn_eq_splitOnP, hjoined]
      refine List.splitOn_intercalate '\n' (fun part hpart => ?_) (mt List.map_eq_nil_iff.mp hne)
      obtain ⟨line, hline, rfl⟩ := List.mem_map.mp hpart
      exact hnone line hline
    rw [lines, hparts, List.map_map]
    simp [Function.comp_def]

theorem lines_injective {s t : String} (h : lines s = lines t) : s = t := by
  apply String.toList_inj.mp
  rw [toList_eq_lines s, toList_eq_lines t, h]

theorem size_marked {mark : Char} (hmark : mark.utf8Size = 1) (line : String) :
    (marked mark line).utf8ByteSize = line.utf8ByteSize + 2 := by
  have hnewline : ('\n' : Char).utf8Size = 1 := rfl
  rw [marked, String.utf8ByteSize_push, String.utf8ByteSize_append, String.utf8ByteSize_singleton, hmark, hnewline]
  omega

theorem size_join_marked {mark : Char} (hmark : mark.utf8Size = 1) (lines : List String) :
    (String.join (lines.map (marked mark))).utf8ByteSize = (lines.map fun line => line.utf8ByteSize + 2).sum := by
  induction lines with
  | nil => rfl
  | cons line lines ih => simp only [List.map_cons, String.join_cons, String.utf8ByteSize_append, size_marked hmark, ih,
      List.sum_cons]

/-- A change takes as many bytes as the opposite change. -/
theorem size_changes_swap (old new : List String) :
    (changes new old).utf8ByteSize = (changes old new).utf8ByteSize := by
  have hminus : ('-' : Char).utf8Size = 1 := rfl
  have hplus : ('+' : Char).utf8Size = 1 := rfl
  simp only [changes, String.utf8ByteSize_append, size_join_marked hminus, size_join_marked hplus, Nat.add_comm]

/-- A change of any lines begins with a mark. -/
theorem head?_changes {old new : List String} (h : ¬(old = [] ∧ new = [])) :
    ∃ mark, (changes old new).toList.head? = some mark ∧ mark.utf8Size = 1 := by
  cases old with
  | cons line old => exact ⟨'-', by simp [changes, marked], rfl⟩
  | nil =>
    cases new with
    | cons line new => exact ⟨'+', by simp [changes, marked], rfl⟩
    | nil => exact absurd ⟨rfl, rfl⟩ h

/-! ### Caps -/

variable {before after : String} {cap : Nat}

/-- Lines that are left out because the cap is reached would be cut off. -/
theorem clip_listUpTo (cap : Nat) (mark : Char) (out : String) (lines : List String) (more : String) :
    clip cap (listUpTo cap mark out lines ++ more) =
      clip cap (out ++ String.join (lines.map (marked mark)) ++ more) := by
  induction lines generalizing out with
  | nil => simp [listUpTo]
  | cons line lines ih =>
    rw [listUpTo]
    by_cases hfull : cap ≤ out.utf8ByteSize
    · rw [if_pos hfull, clip_append hfull, String.append_assoc, clip_append hfull]
    · have hline : ((out.push mark) ++ line).push '\n' = out ++ marked mark line := by
        apply String.toList_inj.mp
        simp [marked]
      rw [if_neg hfull, hline, ih, List.map_cons, String.join_cons, ← String.append_assoc]

theorem listing_eq (before after : String) :
    listing before after = changes (middles (lines before) (lines after)).1 (middles (lines before) (lines after)).2 :=
  String.join_append

theorem excerpt_of_long (h : maxInput < before.utf8ByteSize ∨ maxInput < after.utf8ByteSize) :
    excerpt before after cap = "" := by
  rw [excerpt, if_pos (by simpa using h)]

theorem excerpt_eq_clip (hbefore : before.utf8ByteSize ≤ maxInput) (hafter : after.utf8ByteSize ≤ maxInput) :
    excerpt before after cap = clip cap (listing before after) := by
  have hclip := clip_listUpTo cap '+' (listUpTo cap '-' "" (middles (lines before) (lines after)).1)
    (middles (lines before) (lines after)).2 ""
  rw [String.append_empty, String.append_empty, clip_listUpTo, String.empty_append] at hclip
  rw [excerpt, if_neg (by simp [hbefore, hafter]), listing_eq]
  exact hclip

theorem Between.excerpt_eq {first last old new : List String}
    (h : Between first last (lines before) (lines after) old new)
    (hbefore : before.utf8ByteSize ≤ maxInput) (hafter : after.utf8ByteSize ≤ maxInput) :
    excerpt before after cap = clip cap (changes old new) := by
  rw [excerpt_eq_clip hbefore hafter, listing_eq, h.middles_eq]

/-- The diff of two texts is as much of the change between them as fits in the cap, without a part of a character. If
all of it fits, the diff the other way round is the opposite change. It is empty only of a text and itself, unless there
is no room for anything. Of texts that are too long it is empty. -/
theorem excerpt_clips_the_change (before after : String) (cap : Nat) :
    (maxInput < before.utf8ByteSize ∨ maxInput < after.utf8ByteSize → excerpt before after cap = "") ∧
    (before.utf8ByteSize ≤ maxInput → after.utf8ByteSize ≤ maxInput → ∃ first last old new,
      Between first last (lines before) (lines after) old new ∧
      Clipped cap (changes old new).toList (excerpt before after cap).toList ∧
      ((changes old new).utf8ByteSize ≤ cap →
        excerpt before after cap = changes old new ∧ excerpt after before cap = changes new old) ∧
      (1 ≤ cap → (excerpt before after cap = "" ↔ before = after))) := by
  refine ⟨excerpt_of_long, fun hbefore hafter => ?_⟩
  obtain ⟨first, last, hbetween⟩ := between_middles (lines before) (lines after)
  generalize (middles (lines before) (lines after)).1 = old at hbetween
  generalize (middles (lines before) (lines after)).2 = new at hbetween
  have hforth : excerpt before after cap = clip cap (changes old new) := hbetween.excerpt_eq hbefore hafter
  have hback : excerpt after before cap = clip cap (changes new old) := hbetween.swap.excerpt_eq hafter hbefore
  have hclipped : Clipped cap (changes old new).toList (excerpt before after cap).toList := hforth ▸ clipped_clip cap _
  refine ⟨first, last, old, new, hbetween, hclipped, fun hfits => ⟨?_, ?_⟩, fun hroom => ?_⟩
  · rw [hforth, clip, if_pos hfits]
  · rw [hback, clip, if_pos (size_changes_swap old new ▸ hfits)]
  · have hsame : before = after ↔ old = [] ∧ new = [] :=
      ⟨fun h => hbetween.nil_iff.mpr (congrArg lines h), fun h => lines_injective (hbetween.nil_iff.mp h)⟩
    rw [hsame]
    constructor
    · intro hempty
      by_contra hchange
      obtain ⟨mark, hhead, hmark⟩ := head?_changes hchange
      obtain ⟨rest, hchanges⟩ := List.head?_eq_some_iff.mp hhead
      rw [hchanges, hempty] at hclipped
      obtain ⟨rest', hcons⟩ := hclipped.cons (by omega)
      cases hcons
    · rintro ⟨rfl, rfl⟩
      rw [hforth]
      rfl

example : excerpt "one\ntwo" "one\nété" 7 = "-two\n+" := by cbv

end Pasteboard.Text.LineDiff
