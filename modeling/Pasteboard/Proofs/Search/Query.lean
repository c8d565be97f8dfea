import Mathlib.Algebra.Group.Nat.Even
import Mathlib.Data.List.Basic
import Pasteboard.Search.Query
/-!
How a query is read.

A query consists of bare words, of phrases between quotes and of bars, with blanks between them. A text can be read as
a query in at most one way, and in one way if every quote in it is closed: two quotes in a row inside a phrase are a
quote of the phrase, so a phrase ends at a quote that no other one follows, and a word ends where no more of it follows.
-/

namespace Pasteboard.Search

open Pasteboard.Text

/-- A character of a bare word. -/
def isBare (c : Char) : Bool := c != '"' && c != '|' && !isBlank c

/-- The characters of a phrase between its quotes: a quote of the phrase is written twice. -/
def doubled (t : List Char) : List Char := t.flatMap fun c => if c = '"' then ['"', '"'] else [c]

/-- A text consists of parts, from left to right. -/
inductive Reads : List Char → List Part → Prop
  | done : Reads [] []
  | blank {c : Char} {cs : List Char} {parts : List Part} (blank : isBlank c = true) (rest : Reads cs parts) :
    Reads (c :: cs) parts
  | bar {cs : List Char} {parts : List Part} (rest : Reads cs parts) : Reads ('|' :: cs) (.either :: parts)
  | phrase {t cs : List Char} {parts : List Part} (closed : cs.head? ≠ some '"') (rest : Reads cs parts) :
    Reads ('"' :: doubled t ++ '"' :: cs) (.term t :: parts)
  | word {t cs : List Char} {parts : List Part} (nonempty : t ≠ []) (bare : ∀ c ∈ t, isBare c = true)
      (ends : ∀ c ∈ cs.head?, isBare c = false) (rest : Reads cs parts) :
    Reads (t ++ cs) (.term t :: parts)

variable {c : Char} {cs t word : List Char} {parts acc read : List Part} {quoted : Bool}

/-! ### Words and phrases -/

theorem isBare_iff : isBare c = true ↔ c ≠ '"' ∧ c ≠ '|' ∧ isBlank c = false := by
  simp [isBare, and_assoc]

@[simp] theorem doubled_nil : doubled [] = [] := rfl

theorem doubled_append (t word : List Char) : doubled (t ++ word) = doubled t ++ doubled word := List.flatMap_append

theorem doubled_cons_quote (t : List Char) : doubled ('"' :: t) = '"' :: '"' :: doubled t := rfl

theorem doubled_cons (h : c ≠ '"') (t : List Char) : doubled (c :: t) = c :: doubled t := by
  rw [doubled, List.flatMap_cons, if_neg h]
  rfl

theorem mem_doubled : c ∈ doubled t ↔ c ∈ t := by
  induction t with
  | nil => exact Iff.rfl
  | cons d t ih =>
    by_cases hd : d = '"'
    · subst hd
      rw [doubled_cons_quote, List.mem_cons, List.mem_cons, ih, List.mem_cons, or_self_left]
    · rw [doubled_cons hd, List.mem_cons, ih, List.mem_cons]

@[simp] theorem flush_nil (parts : List Part) : flush parts [] = parts := rfl

theorem flush_of_ne_nil (h : word ≠ []) : flush parts word = .term word.reverse :: parts := by
  rw [flush, if_neg (by simpa using h)]

/-- A word under way, before a text that does not continue it. -/
theorem reads_flush (acc : List Part) (hword : ∀ c ∈ word, isBare c = true) (ends : ∀ c ∈ cs.head?, isBare c = false)
    (rest : Reads cs parts) :
    ∃ found, Reads (word.reverse ++ cs) found ∧ (flush acc word).reverse ++ parts = acc.reverse ++ found := by
  by_cases hnil : word = []
  · subst hnil
    exact ⟨parts, rest, rfl⟩
  · refine ⟨.term word.reverse :: parts, .word (by simpa using hnil) (by simpa using hword) ends rest, ?_⟩
    rw [flush_of_ne_nil hnil]
    simp

/-! ### What is scanned can be read -/

/-- What was scanned of the term under way, from the last word first. -/
def pending (quoted : Bool) (word : List Char) : List Char :=
  if quoted then '"' :: doubled word.reverse else word.reverse

theorem reads_of_scan (hword : quoted = false → ∀ c ∈ word, isBare c = true) (h : scan quoted acc word cs = some read) :
    ∃ parts, Reads (pending quoted word ++ cs) parts ∧ read = acc.reverse ++ parts := by
  -- By the recursion of the scan; the term under way stands before what is left.
  fun_induction scan quoted acc word cs with
  | case1 => cases h
  | case2 quoted acc word hq =>
    obtain rfl := Bool.eq_false_iff.mpr hq
    obtain ⟨parts, hreads, hacc⟩ := reads_flush acc (hword rfl) (by simp) .done
    cases h
    rw [List.append_nil] at hacc
    exact ⟨parts, hreads, hacc⟩
  | case3 acc word rest ih =>
    obtain ⟨parts, hreads, hread⟩ := ih nofun h
    refine ⟨parts, ?_, hread⟩
    simpa [pending, doubled_append, doubled_cons_quote] using hreads
  | case4 acc word rest hclosed ih =>
    obtain ⟨parts, hreads, hread⟩ := ih (by simp) h
    have hhead : rest.head? ≠ some '"' := fun he => hclosed _ (List.eq_cons_of_mem_head? he)
    refine ⟨.term word.reverse :: parts, ?_, by simpa using hread⟩
    simpa [pending] using Reads.phrase (t := word.reverse) hhead hreads
  | case5 acc word c cs hc ih =>
    obtain ⟨parts, hreads, hread⟩ := ih nofun h
    refine ⟨parts, ?_, hread⟩
    simpa [pending, doubled_append, doubled_cons hc] using hreads
  | case6 quoted acc word cs hq ih =>
    obtain rfl := Bool.eq_false_iff.mpr hq
    obtain ⟨parts, hreads, hread⟩ := ih nofun h
    obtain ⟨found, hfound, hacc⟩ := reads_flush acc (hword rfl) (by rintro c ⟨⟩; rfl) hreads
    exact ⟨found, hfound, hread.trans hacc⟩
  | case7 quoted acc word cs hq _ ih =>
    obtain rfl := Bool.eq_false_iff.mpr hq
    obtain ⟨parts, hreads, hread⟩ := ih (by simp) h
    obtain ⟨found, hfound, hacc⟩ := reads_flush acc (hword rfl) (by rintro c ⟨⟩; rfl) hreads.bar
    refine ⟨found, hfound, ?_⟩
    rw [hread, ← hacc]
    simp
  | case8 quoted acc word c cs hq hquote hbar hblank ih =>
    obtain rfl := Bool.eq_false_iff.mpr hq
    obtain ⟨parts, hreads, hread⟩ := ih (by simp) h
    obtain ⟨found, hfound, hacc⟩ := reads_flush acc (hword rfl) (by rintro c ⟨⟩; simp [isBare, hblank])
      (hreads.blank hblank)
    exact ⟨found, hfound, hread.trans hacc⟩
  | case9 quoted acc word c cs hq hquote hbar hblank ih =>
    obtain rfl := Bool.eq_false_iff.mpr hq
    have hbare : isBare c = true := isBare_iff.mpr ⟨hquote, hbar, Bool.eq_false_iff.mpr hblank⟩
    obtain ⟨parts, hreads, hread⟩ := ih (fun _ => List.forall_mem_cons.mpr ⟨hbare, hword rfl⟩) h
    refine ⟨parts, ?_, hread⟩
    simpa [pending] using hreads

/-! ### What can be read is scanned -/

theorem scan_blank (h : isBlank c = true) : scan false acc word (c :: cs) = scan false (flush acc word) [] cs := by
  have hquote : c ≠ '"' := by rintro rfl; cases h
  have hbar : c ≠ '|' := by rintro rfl; cases h
  rw [scan.eq_def]
  simp [h, hquote, hbar]

theorem scan_bare (h : isBare c = true) : scan false acc word (c :: cs) = scan false acc (c :: word) cs := by
  obtain ⟨hquote, hbar, hblank⟩ := isBare_iff.mp h
  rw [scan.eq_def]
  simp [hquote, hbar, hblank]

theorem scan_bar : scan false acc word ('|' :: cs) = scan false (.either :: flush acc word) [] cs := by
  rw [scan.eq_def]
  simp

theorem scan_open : scan false acc word ('"' :: cs) = scan true (flush acc word) [] cs := by
  rw [scan.eq_def]
  simp

theorem scan_doubled (t : List Char) (hclosed : cs.head? ≠ some '"') :
    scan true acc word (doubled t ++ '"' :: cs) = scan false (.term (word.reverse ++ t) :: acc) [] cs := by
  induction t generalizing word with
  | nil =>
    have hnot : ∀ rest, cs = '"' :: rest → False := fun rest he => hclosed (by rw [he]; rfl)
    show scan true acc word ('"' :: cs) = _
    rw [scan.eq_3 _ _ _ _ _ hnot]
    simp
  | cons c t ih =>
    by_cases hc : c = '"'
    · subst hc
      have hnext : scan true acc word ('"' :: '"' :: (doubled t ++ '"' :: cs)) =
          scan true acc ('"' :: word) (doubled t ++ '"' :: cs) := by
        rw [scan.eq_2]
        simp
      rw [doubled_cons_quote, List.cons_append, List.cons_append, hnext, ih]
      simp
    · have hnext : scan true acc word (c :: (doubled t ++ '"' :: cs)) =
          scan true acc (c :: word) (doubled t ++ '"' :: cs) := by
        rw [scan.eq_def]
        simp [hc]
      rw [doubled_cons hc, List.cons_append, hnext, ih]
      simp

theorem scan_word (ht : ∀ c ∈ t, isBare c = true) :
    scan false acc word (t ++ cs) = scan false acc (t.reverse ++ word) cs := by
  induction t generalizing word with
  | nil => rfl
  | cons c t ih =>
    obtain ⟨hc, ht⟩ := List.forall_mem_cons.mp ht
    rw [List.cons_append, scan_bare hc, ih ht]
    simp

/-- A word ends before a character that does not belong to it. -/
theorem scan_flush (ends : ∀ c ∈ cs.head?, isBare c = false) :
    scan false acc word cs = scan false (flush acc word) [] cs := by
  cases cs with
  | nil => rfl
  | cons c cs =>
    by_cases hquote : c = '"'
    · subst hquote
      rw [scan_open, scan_open, flush_nil]
    by_cases hbar : c = '|'
    · subst hbar
      rw [scan_bar, scan_bar, flush_nil]
    have hblank : isBlank c = true := by
      by_contra hblank
      have hbare := isBare_iff.mpr ⟨hquote, hbar, Bool.eq_false_iff.mpr hblank⟩
      cases hbare.symm.trans (ends c rfl)
    rw [scan_blank hblank, scan_blank hblank, flush_nil]

theorem Reads.scan_eq (h : Reads cs parts) : scan false acc [] cs = some (acc.reverse ++ parts) := by
  induction h generalizing acc with
  | done => simp [scan]
  | blank hblank _ ih => rw [scan_blank hblank, flush_nil, ih]
  | bar _ ih =>
    rw [scan_bar, flush_nil, ih]
    simp
  | phrase hclosed _ ih =>
    rw [List.cons_append, scan_open, flush_nil, scan_doubled _ hclosed, ih]
    simp
  | word hne hbare hends _ ih =>
    rw [scan_word hbare, List.append_nil, scan_flush hends, flush_of_ne_nil (by simpa using hne), ih]
    simp

theorem scan_eq_some_iff : scan false [] [] cs = some parts ↔ Reads cs parts := by
  constructor
  · intro h
    obtain ⟨found, hreads, rfl⟩ := reads_of_scan (by simp) h
    exact hreads
  · exact fun h => h.scan_eq

/-- There is one way at most to read a text. -/
theorem Reads.unique (h : Reads cs parts) (h' : Reads cs read) : parts = read :=
  Option.some.inj ((scan_eq_some_iff.mpr h).symm.trans (scan_eq_some_iff.mpr h'))

theorem Reads.exists_iff (h : Reads cs parts) {p : List Part → Prop} : (∃ read, Reads cs read ∧ p read) ↔ p parts :=
  ⟨fun ⟨_, hread, hp⟩ => h.unique hread ▸ hp, fun hp => ⟨parts, h, hp⟩⟩

theorem Reads.blank_of_nil (h : Reads cs []) : ∀ c ∈ cs, isBlank c = true := by
  generalize hnil : ([] : List Part) = parts at h
  induction h with
  | done => simp
  | blank hblank _ ih => exact List.forall_mem_cons.mpr ⟨hblank, ih hnil⟩
  | bar => cases hnil
  | phrase => cases hnil
  | word => cases hnil

/-- A character that means nothing by itself stands in a term. -/
theorem Reads.mem_iff (h : Reads cs parts) (hc : isBare c = true) : c ∈ cs ↔ ∃ t, .term t ∈ parts ∧ c ∈ t := by
  obtain ⟨hquote, hbar, hblank⟩ := isBare_iff.mp hc
  induction h with
  | done => simp
  | blank hd _ ih =>
    have hne : c ≠ _ := fun he => Bool.false_ne_true (hblank.symm.trans (he ▸ hd))
    simp [hne, ih]
  | bar _ ih => simp [hbar, ih]
  | phrase _ _ ih => simp [hquote, mem_doubled, ih]
  | word _ _ _ _ ih => simp [ih]

/-! ### Quotes that are closed -/

theorem scan_isSome_iff :
    (scan quoted acc word cs).isSome = true ↔ Even ((if quoted then 1 else 0) + cs.count '"') := by
  fun_induction scan quoted acc word cs with
  | case1 => simp
  | case2 quoted _ _ hq => simp [hq]
  | case3 _ _ rest ih =>
    rw [ih]
    simp only [List.count_cons_self, if_true, Nat.even_add_one, ← Nat.add_assoc, not_not]
  | case4 _ _ rest _ ih =>
    rw [ih]
    simp only [List.count_cons_self, if_true, Bool.false_eq_true, if_false, Nat.zero_add, Nat.add_comm 1,
      Nat.even_add_one, not_not]
  | case5 _ _ c cs hc ih => rw [ih, List.count_cons_of_ne hc]
  | case6 quoted _ _ cs hq ih =>
    rw [ih]
    simp [hq, add_comm]
  | case7 quoted _ _ cs hq _ ih =>
    rw [ih]
    simp [hq]
  | case8 quoted _ _ c cs hq hc _ _ ih =>
    rw [ih, List.count_cons_of_ne hc]
    simp [hq]
  | case9 quoted _ _ c cs hq hc _ _ ih =>
    rw [ih, List.count_cons_of_ne hc]
    simp [hq]

/-- A text can be read if every quote in it is closed, which is so if their number is even. -/
theorem exists_reads_iff : (∃ parts, Reads cs parts) ↔ Even (cs.count '"') := by
  have hsome : (scan false [] [] cs).isSome = true ↔ Even (0 + cs.count '"') := scan_isSome_iff
  rw [Option.isSome_iff_exists] at hsome
  simpa [scan_eq_some_iff] using hsome

end Pasteboard.Search
