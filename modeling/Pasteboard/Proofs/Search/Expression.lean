import Pasteboard.Proofs.Search.Query
import Pasteboard.Proofs.Text.Clip
import Pasteboard.Proofs.Text.Reading
import Pasteboard.Search.Expression
/-!
What a query says in the language of the index.

A query that can be read, and in which every bar stands between two terms, is written as its terms in order, each as a
string, joined by `OR` where a bar stood and by `AND` elsewhere. The index reads back exactly that, unless it meets a
NUL character: then it takes the string for one that is never closed.
-/

namespace Pasteboard.Search

open Pasteboard.Text

/-- Every bar has a term as its previous and as its next part. -/
def BarsBetween (parts : List Part) : Prop :=
  ∀ i, parts[i]? = some .either → 0 < i ∧ (∃ t, parts[i - 1]? = some (.term t)) ∧ ∃ t, parts[i + 1]? = some (.term t)

/-- What joins a term to the parts after it: nothing if a bar does, or if there are none. -/
def joiner : List Part → List Lexeme
  | .term _ :: _ => [.both]
  | _ => []

/-- The lexemes of a query: its terms, with `OR` for every bar and `AND` between terms that stand side by side. -/
def lexemes : List Part → List Lexeme
  | [] => []
  | .either :: rest => .either :: lexemes rest
  | .term t :: rest => .phrase t :: joiner rest ++ lexemes rest

/-- The word that stands outside strings for a lexeme, with the blanks around it. -/
def Lexeme.word : Lexeme → List Char
  | .phrase _ => []
  | .both => [' ', 'A', 'N', 'D', ' ']
  | .either => [' ', 'O', 'R', ' ']

/-- The characters of a lexeme. -/
def Lexeme.text : Lexeme → List Char
  | .phrase t => '"' :: doubled t ++ ['"']
  | l => l.word

/-- The characters of lexemes, one after the other. -/
def written (ls : List Lexeme) : List Char := ls.flatMap Lexeme.text

/-- The characters that stand outside strings: every quote begins a string or ends one. -/
def outside (inString : Bool) : List Char → List Char
  | [] => []
  | c :: cs =>
    if c = '"' then outside (!inString) cs
    else if inString then outside inString cs
    else c :: outside inString cs

variable {c : Char} {t u word cs : List Char} {parts : List Part} {out : List Lexeme}

/-! ### Bars -/

theorem barsBetween_nil : BarsBetween [] := fun i h => by simp at h

theorem barsBetween_singleton (t : List Char) : BarsBetween [.term t] := by
  rintro (_ | i) h <;> simp at h

theorem not_barsBetween_bar : ¬BarsBetween (.either :: parts) := fun h => Nat.lt_irrefl _ (h 0 rfl).1

theorem not_barsBetween_end : ¬BarsBetween [.term t, .either] := fun h => by
  obtain ⟨-, -, u, hu⟩ := h 1 rfl
  cases hu

theorem not_barsBetween_bars : ¬BarsBetween (.term t :: .either :: .either :: parts) := fun h => by
  obtain ⟨-, -, u, hu⟩ := h 1 rfl
  cases hu

theorem barsBetween_terms : BarsBetween (.term t :: .term u :: parts) ↔ BarsBetween (.term u :: parts) := by
  constructor
  · intro h i hi
    obtain ⟨-, ⟨v, hv⟩, hnext⟩ := h (i + 1) hi
    cases i with
    | zero => cases hi
    | succ i => exact ⟨Nat.succ_pos i, ⟨v, hv⟩, hnext⟩
  · rintro h (_ | _ | i) hi
    · cases hi
    · cases hi
    · obtain ⟨-, hbefore, hnext⟩ := h (i + 1) hi
      exact ⟨Nat.succ_pos _, hbefore, hnext⟩

theorem barsBetween_bar : BarsBetween (.term t :: .either :: .term u :: parts) ↔ BarsBetween (.term u :: parts) := by
  constructor
  · intro h i hi
    obtain ⟨-, hbefore, hnext⟩ := h (i + 2) hi
    cases i with
    | zero => cases hi
    | succ i => exact ⟨Nat.succ_pos i, hbefore, hnext⟩
  · rintro h (_ | _ | _ | i) hi
    · cases hi
    · exact ⟨Nat.one_pos, ⟨t, rfl⟩, ⟨u, rfl⟩⟩
    · cases hi
    · obtain ⟨-, hbefore, hnext⟩ := h (i + 1) hi
      exact ⟨Nat.succ_pos _, hbefore, hnext⟩

/-! ### Writing -/

theorem written_append (ls ls' : List Lexeme) : written (ls ++ ls') = written ls ++ written ls' := List.flatMap_append

theorem quoteTerm_eq (t : List Char) : quoteTerm t = String.ofList (Lexeme.text (.phrase t)) := rfl

theorem append_quoteTerm_isEmpty (s : String) (t : List Char) : (s ++ quoteTerm t).isEmpty = false := by
  have hne : (s ++ quoteTerm t).toList ≠ [] := by
    rw [quoteTerm_eq, String.toList_append, String.toList_ofList]
    simp [Lexeme.text]
  rw [← Bool.not_eq_true, String.isEmpty_iff]
  rintro he
  exact hne (by rw [he]; rfl)

theorem joinParts_both (s : String) (t u : List Char) (parts : List Part) :
    joinParts (s ++ quoteTerm t) false (.term u :: parts) =
      joinParts (s ++ String.ofList (written [.phrase t, .both]) ++ quoteTerm u) false parts := by
  have htext : String.ofList (written [.phrase t, .both]) = quoteTerm t ++ " AND " := by
    rw [quoteTerm_eq, ← String.toList_inj, String.toList_append, String.toList_ofList, String.toList_ofList]
    rfl
  rw [joinParts, append_quoteTerm_isEmpty, htext]
  simp only [Bool.false_eq_true, if_false, String.append_assoc]

theorem joinParts_either (s : String) (t u : List Char) (parts : List Part) :
    joinParts (s ++ quoteTerm t) false (.either :: .term u :: parts) =
      joinParts (s ++ String.ofList (written [.phrase t, .either]) ++ quoteTerm u) false parts := by
  have htext : String.ofList (written [.phrase t, .either]) = quoteTerm t ++ " OR " := by
    rw [quoteTerm_eq, ← String.toList_inj, String.toList_append, String.toList_ofList, String.toList_ofList]
    rfl
  rw [joinParts, append_quoteTerm_isEmpty, joinParts, htext]
  simp only [Bool.or_self, Bool.false_eq_true, if_false, if_true, String.append_assoc]

/-- The parts after a term are written if the bars among them stand between terms. -/
theorem joinParts_term : (s : String) → (t : List Char) → (parts : List Part) →
    (BarsBetween (.term t :: parts) ∧
      joinParts (s ++ quoteTerm t) false parts = .ok (s ++ String.ofList (written (lexemes (.term t :: parts))))) ∨
    (¬BarsBetween (.term t :: parts) ∧ joinParts (s ++ quoteTerm t) false parts = .error .danglingOperator)
  | s, t, [] => by
    refine Or.inl ⟨barsBetween_singleton t, ?_⟩
    rw [joinParts, quoteTerm_eq]
    simp [lexemes, joiner, written]
  | s, t, .term u :: parts => by
    have hlexemes : lexemes (.term t :: .term u :: parts) = [.phrase t, .both] ++ lexemes (.term u :: parts) := rfl
    rw [barsBetween_terms, joinParts_both, hlexemes, written_append, String.ofList_append, ← String.append_assoc]
    exact joinParts_term _ u parts
  | s, t, [.either] => by
    refine Or.inr ⟨not_barsBetween_end, ?_⟩
    rw [joinParts, append_quoteTerm_isEmpty]
    rfl
  | s, t, .either :: .either :: parts => by
    refine Or.inr ⟨not_barsBetween_bars, ?_⟩
    rw [joinParts, append_quoteTerm_isEmpty, joinParts]
    simp
  | s, t, .either :: .term u :: parts => by
    have hlexemes : lexemes (.term t :: .either :: .term u :: parts) =
        [.phrase t, .either] ++ lexemes (.term u :: parts) := rfl
    rw [barsBetween_bar, joinParts_either, hlexemes, written_append, String.ofList_append, ← String.append_assoc]
    exact joinParts_term _ u parts

/-- Parts are written as their lexemes, if bars stand between terms. -/
theorem joinParts_eq (parts : List Part) :
    (BarsBetween parts ∧ joinParts "" false parts = .ok (String.ofList (written (lexemes parts)))) ∨
    (¬BarsBetween parts ∧ joinParts "" false parts = .error .danglingOperator) := by
  cases parts with
  | nil => exact Or.inl ⟨barsBetween_nil, rfl⟩
  | cons part parts =>
    cases part with
    | either => exact Or.inr ⟨not_barsBetween_bar, rfl⟩
    | term t =>
      have hfirst : joinParts "" false (.term t :: parts) = joinParts ("" ++ quoteTerm t) false parts := rfl
      rw [hfirst]
      simpa using joinParts_term "" t parts

/-! ### Reading -/

theorem mem_text (hc : isBare c = true) : c ∈ Lexeme.text (.phrase t) ↔ c ∈ t := by
  have hquote := (isBare_iff.mp hc).1
  simp [Lexeme.text, hquote, mem_doubled]

theorem lexOnto_doubled (ht : '\x00' ∉ t) (hclosed : cs.head? ≠ some '"') :
    lexOnto out (some word) (doubled t ++ '"' :: cs) = lexOnto (.phrase (word.reverse ++ t) :: out) none cs := by
  induction t generalizing word with
  | nil =>
    have hnot : ∀ rest, cs = '"' :: rest → False := fun rest he => hclosed (by rw [he]; rfl)
    rw [doubled_nil, List.nil_append, lexOnto.eq_3 _ _ _ _ hnot, if_pos rfl, List.append_nil]
  | cons c t ih =>
    rw [List.mem_cons, not_or] at ht
    have hnul : c.toNat ≠ 0 := fun h => ht.1 (Char.toNat_inj.mp h).symm
    by_cases hc : c = '"'
    · subst hc
      rw [doubled_cons_quote, List.cons_append, List.cons_append, lexOnto.eq_2, if_pos rfl, ih ht.2]
      simp
    · have hnext : lexOnto out (some word) (c :: (doubled t ++ '"' :: cs)) =
          lexOnto out (some (c :: word)) (doubled t ++ '"' :: cs) := by
        rw [lexOnto.eq_def]
        simp [hc, hnul]
      rw [doubled_cons hc, List.cons_append, hnext, ih ht.2]
      simp

/-- A string with a NUL character in it is never closed. -/
theorem lexOnto_nul (ht : '\x00' ∈ t) : lexOnto out (some word) (doubled t ++ cs) = .error .unterminated := by
  induction t generalizing word with
  | nil => cases ht
  | cons c t ih =>
    by_cases hc : c = '"'
    · subst hc
      rw [doubled_cons_quote, List.cons_append, List.cons_append, lexOnto.eq_2, if_pos rfl]
      exact ih (by simpa using ht)
    · rw [doubled_cons hc, List.cons_append, lexOnto.eq_def]
      by_cases hnul : c.toNat = 0
      · simp [hc, hnul]
      · have hne : '\x00' ≠ c := fun h => hnul (h ▸ rfl)
        simpa [hc, hnul] using ih ((List.mem_cons.mp ht).resolve_left hne)

theorem lexOnto_phrase (hclosed : cs.head? ≠ some '"') :
    lexOnto out none (Lexeme.text (.phrase t) ++ cs) =
      if '\x00' ∈ Lexeme.text (.phrase t) then .error .unterminated else lexOnto (.phrase t :: out) none cs := by
  have hopen : lexOnto out none (Lexeme.text (.phrase t) ++ cs) = lexOnto out (some []) (doubled t ++ '"' :: cs) := by
    simp [Lexeme.text, lexOnto]
  by_cases ht : '\x00' ∈ t
  · rw [hopen, if_pos ((mem_text rfl).mpr ht), lexOnto_nul ht]
  · rw [hopen, if_neg (mt (mem_text rfl).mp ht), lexOnto_doubled ht hclosed, List.reverse_nil, List.nil_append]

theorem lexOnto_both : lexOnto out none (Lexeme.both.text ++ cs) = lexOnto (.both :: out) none cs := by
  simp [Lexeme.text, Lexeme.word, lexOnto]

theorem lexOnto_either : lexOnto out none (Lexeme.either.text ++ cs) = lexOnto (.either :: out) none cs := by
  simp [Lexeme.text, Lexeme.word, lexOnto]

theorem written_cons (l : Lexeme) (ls : List Lexeme) : written (l :: ls) = l.text ++ written ls := List.flatMap_cons

theorem written_joiner (parts : List Part) : (written (joiner parts ++ lexemes parts)).head? ≠ some '"' := by
  cases parts with
  | nil => simp [joiner, lexemes, written]
  | cons part parts => cases part <;> simp [joiner, lexemes, written, Lexeme.text, Lexeme.word]

/-- The index reads back what was written, if there is no NUL character in it. -/
theorem lexOnto_written (parts : List Part) : lexOnto out none (written (lexemes parts)) =
    if '\x00' ∈ written (lexemes parts) then .error .unterminated else .ok (out.reverse ++ lexemes parts) := by
  -- By induction on the parts; after a term there is a joiner, or a bar, or nothing.
  induction parts generalizing out with
  | nil => simp [lexemes, written, lexOnto]
  | cons part parts ih =>
    cases part with
    | either =>
      rw [lexemes, written_cons, lexOnto_either, ih]
      simp [Lexeme.text, Lexeme.word]
    | term t =>
      have hafter : lexOnto (.phrase t :: out) none (written (joiner parts ++ lexemes parts)) =
          if '\x00' ∈ written (joiner parts ++ lexemes parts) then .error .unterminated
          else .ok ((.phrase t :: out).reverse ++ (joiner parts ++ lexemes parts)) := by
        cases parts with
        | nil => exact ih
        | cons part parts =>
          cases part with
          | either => exact ih
          | term u =>
            show lexOnto _ none (written (.both :: lexemes (.term u :: parts))) = _
            rw [written_cons, lexOnto_both, ih]
            simp [joiner, written_cons, Lexeme.text, Lexeme.word]
      rw [lexemes, List.cons_append, written_cons, lexOnto_phrase (written_joiner parts), hafter]
      by_cases ht : '\x00' ∈ Lexeme.text (.phrase t) <;> simp [ht]

/-! ### Outside strings -/

theorem outside_quote (cs : List Char) (inString : Bool) : outside inString ('"' :: cs) = outside (!inString) cs := rfl

theorem outside_doubled (t cs : List Char) : outside true (doubled t ++ cs) = outside true cs := by
  induction t with
  | nil => rfl
  | cons c t ih =>
    by_cases hc : c = '"'
    · subst hc
      rw [doubled_cons_quote, List.cons_append, List.cons_append, outside_quote, outside_quote]
      exact ih
    · rw [doubled_cons hc, List.cons_append, outside, if_neg hc, if_pos rfl, ih]

theorem outside_text (l : Lexeme) (cs : List Char) : outside false (l.text ++ cs) = l.word ++ outside false cs := by
  cases l with
  | phrase t =>
    rw [Lexeme.text, List.append_assoc, List.cons_append, outside_quote, Bool.not_false, outside_doubled,
      List.singleton_append, outside_quote]
    rfl
  | both => rfl
  | either => rfl

/-- Only the words that join strings stand outside them. -/
theorem outside_written (ls : List Lexeme) : outside false (written ls) = ls.flatMap Lexeme.word := by
  induction ls with
  | nil => rfl
  | cons l ls ih => rw [written_cons, outside_text, ih, List.flatMap_cons]

/-! ### The expression of a query -/

theorem queryText_eq_nil_iff (raw : String) : (queryText raw).toList = [] ↔ (trim raw).isEmpty = true := by
  rw [String.isEmpty_iff, ← String.toList_eq_nil_iff]
  constructor
  · intro hnil
    by_contra hne
    exact (clipped_clip maxQueryBytes (trim raw)).ne_nil (by decide) hne hnil
  · intro hnil
    have hbegins := (clipped_clip maxQueryBytes (trim raw)).begins
    rw [hnil] at hbegins
    exact List.prefix_nil.mp hbegins

theorem nul_mem_written (parts : List Part) :
    '\x00' ∈ written (lexemes parts) ↔ ∃ t, .term t ∈ parts ∧ '\x00' ∈ t := by
  induction parts with
  | nil => simp [lexemes, written]
  | cons part parts ih =>
    cases part with
    | either =>
      rw [lexemes, written_cons, List.mem_append, ih]
      simp [Lexeme.text, Lexeme.word]
    | term t =>
      have hjoiner : '\x00' ∉ written (joiner parts) := by
        unfold joiner
        split <;> simp [written, Lexeme.text, Lexeme.word]
      rw [lexemes, List.cons_append, written_cons, written_append, List.mem_append, List.mem_append, ih, mem_text rfl]
      simp [hjoiner]

theorem expression_of_reads {raw : String} (hne : (queryText raw).toList ≠ [])
    (h : Reads (queryText raw).toList parts) : expression raw = joinParts "" false parts := by
  rw [expression, if_neg (mt (queryText_eq_nil_iff raw).mpr hne), scan_eq_some_iff.mpr h]

/-- What the index makes of a query that was written. -/
theorem lexOnto_of_reads (h : Reads cs parts) : lexOnto [] none (written (lexemes parts)) =
    if '\x00' ∈ cs then .error .unterminated else .ok (lexemes parts) := by
  have hnul : '\x00' ∈ written (lexemes parts) ↔ '\x00' ∈ cs := by rw [nul_mem_written, h.mem_iff rfl]
  rw [lexOnto_written]
  simp only [hnul, List.reverse_nil, List.nil_append]

theorem expression_unread {raw : String} (hne : (queryText raw).toList ≠ [])
    (h : ¬∃ parts, Reads (queryText raw).toList parts) : expression raw = .error .unclosedQuote := by
  have hnone : scan false [] [] (queryText raw).toList = none :=
    Option.eq_none_iff_forall_ne_some.mpr fun parts hparts => h ⟨parts, scan_eq_some_iff.mp hparts⟩
  rw [expression, if_neg (mt (queryText_eq_nil_iff raw).mpr hne), hnone]

/-- What becomes of a query: nothing is left of it, or it cannot be read, or a bar does not stand between terms, or it
is written. -/
theorem expression_cases (raw : String) :
    ((queryText raw).toList = [] ∧ expression raw = .error .empty) ∨
    (queryText raw).toList ≠ [] ∧
      (((¬∃ parts, Reads (queryText raw).toList parts) ∧ expression raw = .error .unclosedQuote) ∨
      ∃ parts, Reads (queryText raw).toList parts ∧
        ((¬BarsBetween parts ∧ expression raw = .error .danglingOperator) ∨
        (BarsBetween parts ∧ expression raw = .ok (String.ofList (written (lexemes parts)))))) := by
  by_cases hnil : (queryText raw).toList = []
  · refine Or.inl ⟨hnil, ?_⟩
    rw [expression, if_pos ((queryText_eq_nil_iff raw).mp hnil)]
  refine Or.inr ⟨hnil, ?_⟩
  by_cases hread : ∃ parts, Reads (queryText raw).toList parts
  · obtain ⟨parts, hparts⟩ := hread
    have hjoin := joinParts_eq parts
    rw [← expression_of_reads hnil hparts] at hjoin
    exact Or.inr ⟨parts, hparts, hjoin.symm⟩
  · exact Or.inl ⟨hread, expression_unread hnil hread⟩

/-- Strings joined by words are alternatives. -/
theorem groupsOf_lexemes : (t : List Char) → (parts : List Part) → BarsBetween (.term t :: parts) →
    (done : Alternatives) → (group : List (List Char)) →
    ∃ alternatives, groupsOf done group (lexemes (.term t :: parts)) = .ok alternatives
  | _, [], _, _, _ => ⟨_, rfl⟩
  | t, .term u :: parts, h, done, group => groupsOf_lexemes u parts (barsBetween_terms.mp h) done (t :: group)
  | _, [.either], h, _, _ => absurd h not_barsBetween_end
  | _, .either :: .either :: _, h, _, _ => absurd h not_barsBetween_bars
  | t, .either :: .term u :: parts, h, done, group =>
    groupsOf_lexemes u parts (barsBetween_bar.mp h) ((t :: group).reverse :: done) []

/-- What is left of a query begins with a character of it that is not blank, so it has a part. -/
theorem Reads.ne_nil {raw : String} (hne : (queryText raw).toList ≠ []) (h : Reads (queryText raw).toList parts) :
    parts ≠ [] := by
  rintro rfl
  obtain ⟨rest, hrest⟩ := (clipped_clip maxQueryBytes (trim raw)).begins
  obtain ⟨c, cs, hcs⟩ := List.exists_cons_of_ne_nil hne
  have hbegins : (clip maxQueryBytes (trim raw)).toList = c :: cs := hcs
  have hfirst : (trimBlanks raw.toList).head? = some c := by
    rw [← String.toList_ofList (l := trimBlanks raw.toList), ← trim, ← hrest, hbegins]
    rfl
  have hblank := h.blank_of_nil c (hcs ▸ List.mem_cons_self)
  rw [(trimmed_trimBlanks raw.toList).first c hfirst] at hblank
  cases hblank

/-- What was written denotes alternatives, unless there is a NUL character in the query. -/
theorem read_expression {raw e : String} (h : expression raw = .ok e) :
    ('\x00' ∈ (queryText raw).toList ∧ Alternatives.read e = .error .unterminated) ∨
    ('\x00' ∉ (queryText raw).toList ∧ ∃ alternatives, Alternatives.read e = .ok alternatives) := by
  obtain ⟨-, he⟩ | ⟨hne, ⟨-, he⟩ | ⟨parts, hparts, ⟨-, he⟩ | ⟨hbars, he⟩⟩⟩ := expression_cases raw
  · cases he.symm.trans h
  · cases he.symm.trans h
  · cases he.symm.trans h
  obtain rfl := Except.ok.inj (he.symm.trans h)
  rw [Alternatives.read, String.toList_ofList, lexOnto_of_reads hparts]
  by_cases hnul : '\x00' ∈ (queryText raw).toList
  · exact Or.inl ⟨hnul, by simp [hnul]⟩
  · obtain ⟨part, parts, rfl⟩ := List.exists_cons_of_ne_nil (hparts.ne_nil hne)
    cases part with
    | either => exact absurd hbars not_barsBetween_bar
    | term t =>
      obtain ⟨alternatives, ha⟩ := groupsOf_lexemes t parts hbars [] []
      exact Or.inr ⟨hnul, alternatives, by simpa [hnul] using ha⟩

/-- A query is written if something is left of it, every quote in it is closed and every bar stands between terms.
The index reads back its terms with the words that join them, unless there is a NUL character in it. -/
theorem expression_says_the_query (raw : String) : ∃ w,
    Clipped maxQueryBytes (trim raw).toList w ∧ ((∃ parts, Reads w parts) ↔ Even (w.count '"')) ∧
    (expression raw = .error .empty ↔ w = []) ∧
    (expression raw = .error .unclosedQuote ↔ w ≠ [] ∧ ¬∃ parts, Reads w parts) ∧
    (expression raw = .error .danglingOperator ↔ w ≠ [] ∧ ∃ parts, Reads w parts ∧ ¬BarsBetween parts) ∧
    ((∃ e, expression raw = .ok e) ↔ w ≠ [] ∧ ∃ parts, Reads w parts ∧ BarsBetween parts) ∧
    ∀ e parts, expression raw = .ok e → Reads w parts →
      outside false e.toList = (lexemes parts).flatMap Lexeme.word ∧
      lexOnto [] none e.toList = if '\x00' ∈ w then .error .unterminated else .ok (lexemes parts) := by
  refine ⟨(queryText raw).toList, clipped_clip maxQueryBytes (trim raw), exists_reads_iff, ?_⟩
  obtain ⟨hnil, he⟩ | ⟨hne, ⟨hunread, he⟩ | ⟨parts, hparts, ⟨hbars, he⟩ | ⟨hbars, he⟩⟩⟩ := expression_cases raw
  · simp [he, hnil]
  · have hnone (p : List Part → Prop) : ¬∃ parts, Reads (queryText raw).toList parts ∧ p parts :=
      fun ⟨parts, h, _⟩ => hunread ⟨parts, h⟩
    simp [he, hne, hunread, hnone]
  · have hread : ∃ parts, Reads (queryText raw).toList parts := ⟨parts, hparts⟩
    simp [he, hne, hread, hparts.exists_iff, hbars]
  · have hread : ∃ parts, Reads (queryText raw).toList parts := ⟨parts, hparts⟩
    refine ⟨by simp [he, hne], by simp [he, hread], by simp [he, hparts.exists_iff, hbars],
      by simp [he, hne, hparts.exists_iff, hbars], fun e found hok hfound => ?_⟩
    obtain rfl := hparts.unique hfound
    obtain rfl := Except.ok.inj (he.symm.trans hok)
    rw [String.toList_ofList]
    exact ⟨outside_written _, lexOnto_of_reads hparts⟩

/-- The index takes the string of a word for one that is not closed if there is a NUL character in the word. -/
theorem nul_is_not_read : expression "a\x00" = .ok "\"a\x00\"" ∧
    lexOnto [] none "\"a\x00\"".toList = .error .unterminated := by decide +kernel

end Pasteboard.Search
