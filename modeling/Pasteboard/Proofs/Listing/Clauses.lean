import Pasteboard.Proofs.Listing.Cut
import Pasteboard.Proofs.Text.Reading
/-!
What the text of a restriction says.

The database knows of a predicate only its text and the values bound to its places. So the text is given a meaning of
its own: it is cut into words, the places are filled from left to right, and what is left is evaluated with the
precedence of `AND` over `OR` and of groups over both. Evaluated so, the text of a predicate selects the rows that the
predicate does.
-/

namespace Pasteboard

open Text

/-! ### The meaning of a text -/

namespace Restriction

/-- A word of a restriction. -/
inductive Token
  | start
  | column (c : Column)
  | relation (r : Relation)
  | value (v : Cell)
  | place
  | and
  | or
  | opening
  | closing
  deriving DecidableEq, Repr

/-- The words that are no numbers. -/
def spellings : List (String × Token) :=
  [("WHERE", .start), ("AND", .and), ("OR", .or), ("(", .opening), (")", .closing), ("?", .place),
    ("is_active", .column .isActive), ("is_file", .column .isFile), ("mime", .column .mime),
    ("filename", .column .filename), ("created_at", .column .createdAt), ("id", .column .id),
    ("=", .relation .eq), ("<", .relation .lt), (">", .relation .gt)]

/-- The characters that are words by themselves. -/
def signs : List Char := ['(', ')', '?', '=', '<', '>']

/-- The words of characters, the first of which begins with the given ones. -/
def scan (word : List Char) : List Char → List (List Char)
  | [] => [word].filter (· ≠ [])
  | c :: cs =>
    if c.isWhitespace then [word].filter (· ≠ []) ++ scan [] cs
    else if c ∈ signs then [word].filter (· ≠ []) ++ [c] :: scan [] cs
    else scan (word ++ [c]) cs

def Token.read? (word : List Char) : Option Token :=
  match Numeral.read? Numeral.int64 (String.ofList word) with
  | some n => some (.value (.int n))
  | none => spellings.lookup (String.ofList word)

def tokens? (cs : List Char) : Option (List Token) := (scan [] cs).mapM Token.read?

/-- Fills the places from left to right. There must be as many values. -/
def fill? : List Token → List Cell → Option (List Token)
  | [], [] => some []
  | [], _ :: _ => none
  | .place :: _, [] => none
  | .place :: ts, v :: vs => (fill? ts vs).map (.value v :: ·)
  | t :: ts, vs => (fill? ts vs).map (t :: ·)

/-- A group that is being evaluated: the truth value of the alternatives that are over, and that of the one that is
not. -/
structure Group where
  past : Option Bool := some false
  present : Option Bool := some true

namespace Group

def truth (g : Group) : Option Bool := or3 g.past g.present

/-- A further condition of the present alternative. -/
def meet (g : Group) (x : Option Bool) : Group := { g with present := and3 g.present x }

/-- The next alternative begins. -/
def turn (g : Group) : Group := { past := g.truth }

theorem meet_true (g : Group) : g.meet (some true) = g := by rw [meet, and3_true_right]

theorem meet_meet (g : Group) (x y : Option Bool) : (g.meet x).meet y = g.meet (and3 x y) := by
  simp only [meet, and3_assoc]

theorem truth_both (x y : Option Bool) : ((({} : Group).meet x).meet y).truth = and3 x y := by
  rcases x with _ | _ | _ <;> rcases y with _ | _ | _ <;> rfl

theorem truth_either (x y : Option Bool) : ((({} : Group).meet x).turn.meet y).truth = or3 x y := by
  rcases x with _ | _ | _ <;> rcases y with _ | _ | _ <;> rfl

end Group

mutual

/-- Evaluates what follows where a condition is expected, within a group and those around it. -/
def operand (cells : Column → Cell) (g : Group) (outer : List Group) : List Token → Option (Option Bool)
  | .opening :: ts => operand cells {} (g :: outer) ts
  | .column c :: .relation r :: .value v :: ts => operator cells (g.meet (r.holds (cells c) v)) outer ts
  | _ => none

/-- Evaluates what follows a condition. -/
def operator (cells : Column → Cell) (g : Group) (outer : List Group) : List Token → Option (Option Bool)
  | [] => if outer.isEmpty then some g.truth else none
  | .and :: ts => operand cells g outer ts
  | .or :: ts => operand cells g.turn outer ts
  | .closing :: ts =>
    match outer with
    | [] => none
    | around :: outer => operator cells (around.meet g.truth) outer ts
  | _ => none

end

/-- Whether a text with values for its places selects a row; none if it cannot be evaluated. -/
def selects? (text : String) (bound : List Cell) (cells : Column → Cell) : Option Bool :=
  match (tokens? text.toList).bind (fill? · bound) with
  | some [] => some true
  | some (.start :: ts) => (operand cells {} [] ts).map (· == some true)
  | _ => none

/-! ### Words -/

section Words
variable {word rest : List Char} {t : Token} {ch : Char}

/-- Whether a character can stand in a word with others. -/
def isPlain (c : Char) : Bool := !c.isWhitespace && !signs.contains c

/-- What follows does not continue a word. -/
def Ended (rest : List Char) : Prop := ∀ c ∈ rest.head?, isPlain c = false

theorem scan_plain (hword : ∀ c ∈ word, isPlain c = true) (front rest : List Char) :
    scan front (word ++ rest) = scan (front ++ word) rest := by
  induction word generalizing front with
  | nil => rw [List.nil_append, List.append_nil]
  | cons c word ih =>
    obtain ⟨hc, hword⟩ := List.forall_mem_cons.mp hword
    simp only [isPlain, Bool.and_eq_true, Bool.not_eq_true', List.contains_eq_mem, decide_eq_false_iff_not] at hc
    rw [List.cons_append, scan, if_neg (by simp [hc.1]), if_neg hc.2, ih hword, List.append_assoc,
      List.singleton_append]

theorem scan_ended (hne : word ≠ []) (hrest : Ended rest) : scan word rest = word :: scan [] rest := by
  have hword : [word].filter (· ≠ []) = [word] := by simp [hne]
  cases rest with
  | nil => rw [scan, hword]; rfl
  | cons c rest =>
    have hc := hrest c rfl
    simp only [isPlain, Bool.and_eq_false_iff, Bool.not_eq_false', List.contains_eq_mem, decide_eq_true_eq] at hc
    rw [scan, scan, hword]
    by_cases hblank : c.isWhitespace = true
    · simp [hblank]
    · simp [hblank, hc.resolve_left hblank]

theorem tokens?_word (hword : ∀ c ∈ word, isPlain c = true) (hread : Token.read? word = some t) (hrest : Ended rest) :
    tokens? (word ++ rest) = (tokens? rest).map (t :: ·) := by
  have hne : word ≠ [] := by
    rintro rfl
    cases hread
  rw [tokens?, scan_plain hword, List.nil_append, scan_ended hne hrest, List.mapM_cons, hread, ← tokens?]
  cases tokens? rest <;> rfl

theorem tokens?_sign (hsign : isPlain ch = false) (hblank : ch.isWhitespace = false) (hread : Token.read? [ch] = some t)
    (rest : List Char) : tokens? (ch :: rest) = (tokens? rest).map (t :: ·) := by
  have hmem : ch ∈ signs := by
    simpa [isPlain, hblank] using hsign
  have hscan : scan [] (ch :: rest) = [ch] :: scan [] rest := by
    rw [scan, if_neg (by simp [hblank]), if_pos hmem]
    rfl
  rw [tokens?, hscan, List.mapM_cons, hread, ← tokens?]
  cases tokens? rest <;> rfl

theorem tokens?_blank (rest : List Char) : tokens? (' ' :: rest) = tokens? rest := by
  have hscan : scan [] (' ' :: rest) = scan [] rest := if_pos rfl
  rw [tokens?, hscan, ← tokens?]

theorem ended_cons (h : isPlain ch = false) (rest : List Char) : Ended (ch :: rest) := fun c hc => by
  cases hc
  exact h

theorem tokens?_between (word : List Char) (hword : ∀ c ∈ word, isPlain c = true) (hread : Token.read? word = some t)
    (rest : List Char) : tokens? (' ' :: (word ++ ' ' :: rest)) = (tokens? rest).map (t :: ·) := by
  rw [tokens?_blank, tokens?_word hword hread (ended_cons rfl _), tokens?_blank]

theorem tokens?_and (rest : List Char) : tokens? (" AND ".toList ++ rest) = (tokens? rest).map (.and :: ·) :=
  tokens?_between "AND".toList (List.all_eq_true.mp rfl) rfl rest

theorem tokens?_or (rest : List Char) : tokens? (" OR ".toList ++ rest) = (tokens? rest).map (.or :: ·) :=
  tokens?_between "OR".toList (List.all_eq_true.mp rfl) rfl rest

theorem tokens?_where (rest : List Char) : tokens? (" WHERE ".toList ++ rest) = (tokens? rest).map (.start :: ·) :=
  tokens?_between "WHERE".toList (List.all_eq_true.mp rfl) rfl rest

theorem isPlain_of_isDigit (h : ch.isDigit = true) : isPlain ch = true := by
  rw [← Bool.not_eq_false]
  intro hplain
  simp only [isPlain, Char.isWhitespace, signs, Bool.and_eq_false_iff, Bool.not_eq_false', Bool.or_eq_true,
    decide_eq_true_eq, List.contains_iff_mem, List.mem_cons, List.not_mem_nil, or_false] at hplain
  rcases hplain with (((rfl | rfl) | rfl) | rfl) | rfl | rfl | rfl | rfl | rfl | rfl <;> cases h

end Words

/-! ### Conditions -/

/-- The words of a condition. -/
def tokens : Condition → List Token
  | .test c r (.lit n) => [.column c, .relation r, .value (.int n)]
  | .test c r .place => [.column c, .relation r, .place]
  | .both a b => .opening :: tokens a ++ .and :: tokens b ++ [.closing]
  | .either a b => .opening :: tokens a ++ .or :: tokens b ++ [.closing]

/-- The words of a condition with values for its places. A number in the text has no sign. -/
inductive Fills : Condition → List Cell → List Token → Prop
  | lit (c : Column) (r : Relation) {n : Int} (hlow : 0 ≤ n) (hhigh : n ≤ Numeral.int64.high) :
    Fills (.test c r (.lit n)) [] [.column c, .relation r, .value (.int n)]
  | place (c : Column) (r : Relation) (v : Cell) : Fills (.test c r .place) [v] [.column c, .relation r, .value v]
  | both {a b : Condition} {vs ws : List Cell} {ts us : List Token} (ha : Fills a vs ts) (hb : Fills b ws us) :
    Fills (.both a b) (vs ++ ws) (.opening :: ts ++ .and :: us ++ [.closing])
  | either {a b : Condition} {vs ws : List Cell} {ts us : List Token} (ha : Fills a vs ts) (hb : Fills b ws us) :
    Fills (.either a b) (vs ++ ws) (.opening :: ts ++ .or :: us ++ [.closing])

theorem tokens?_name (c : Column) {rest : List Char} (hrest : Ended rest) :
    tokens? (c.name.toList ++ rest) = (tokens? rest).map (.column c :: ·) := by
  refine tokens?_word (List.all_eq_true.mp ?_) ?_ hrest
  · cases c <;> rfl
  · cases c <;> rfl

theorem tokens?_relation (r : Relation) (rest : List Char) :
    tokens? (r.sign.toList ++ rest) = (tokens? rest).map (.relation r :: ·) := by
  cases r
  all_goals exact tokens?_sign rfl rfl rfl rest

theorem tokens?_test (c : Column) (r : Relation) (o : Operand) (rest : List Char) :
    tokens? ((Condition.test c r o).text.toList ++ rest) =
      (tokens? (o.text.toList ++ rest)).map fun ts => .column c :: .relation r :: ts := by
  have htext : (Condition.test c r o).text.toList ++ rest =
      c.name.toList ++ ' ' :: (r.sign.toList ++ ' ' :: (o.text.toList ++ rest)) := by
    simp [Condition.text]
  rw [htext, tokens?_name c (ended_cons rfl _), tokens?_blank, tokens?_relation, tokens?_blank]
  cases tokens? (o.text.toList ++ rest) <;> rfl

/-- The words of two texts with one between them, in parentheses. -/
theorem tokens?_group {a b joint : List Char} {ts us : List Token} {t : Token}
    (ha : ∀ {rest}, Ended rest → tokens? (a ++ rest) = (tokens? rest).map (ts ++ ·))
    (hb : ∀ {rest}, Ended rest → tokens? (b ++ rest) = (tokens? rest).map (us ++ ·))
    (hjoint : ∀ rest, tokens? (' ' :: joint ++ rest) = (tokens? rest).map (t :: ·)) (rest : List Char) :
    tokens? ('(' :: (a ++ (' ' :: joint ++ (b ++ ')' :: rest)))) =
      (tokens? rest).map ((.opening :: ts ++ t :: us ++ [.closing]) ++ ·) := by
  have hended : Ended (' ' :: joint ++ (b ++ ')' :: rest)) := ended_cons rfl _
  rw [tokens?_sign rfl rfl rfl, ha hended, hjoint, hb (ended_cons rfl _), tokens?_sign rfl rfl rfl]
  cases tokens? rest <;> simp

namespace Fills
variable {c : Condition} {vs ws : List Cell} {ts us : List Token} {rest : List Char} {cells : Column → Cell}

theorem tokens?_eq (h : Fills c vs ts) (hrest : Ended rest) :
    tokens? (c.text.toList ++ rest) = (tokens? rest).map (tokens c ++ ·) := by
  induction h generalizing rest with
  | @lit c r n hlow hhigh =>
    have hplain : ∀ d ∈ (toString n).toList, isPlain d = true := fun d hd =>
      isPlain_of_isDigit (Numeral.isDigit_of_mem_toString hlow hd)
    have hread : Token.read? (toString n).toList = some (.value (.int n)) := by
      rw [Token.read?, String.ofList_toList, Numeral.read?_toString hlow hhigh]
    rw [tokens?_test, Operand.text, tokens?_word hplain hread hrest]
    cases tokens? rest <;> rfl
  | place c r v =>
    have hplace : tokens? (Operand.place.text.toList ++ rest) = (tokens? rest).map (.place :: ·) :=
      tokens?_sign rfl rfl rfl rest
    rw [tokens?_test, hplace]
    cases tokens? rest <;> rfl
  | @both a b vs ws ts us _ _ iha ihb =>
    have htext : (Condition.both a b).text.toList ++ rest =
        '(' :: (a.text.toList ++ (" AND ".toList ++ (b.text.toList ++ ')' :: rest))) := by
      simp [Condition.text]
    rw [htext]
    exact tokens?_group iha ihb tokens?_and rest
  | @either a b vs ws ts us _ _ iha ihb =>
    have htext : (Condition.either a b).text.toList ++ rest =
        '(' :: (a.text.toList ++ (" OR ".toList ++ (b.text.toList ++ ')' :: rest))) := by
      simp [Condition.text]
    rw [htext]
    exact tokens?_group iha ihb tokens?_or rest

theorem fill?_eq (h : Fills c vs ts) (more : List Token) (ws : List Cell) :
    fill? (tokens c ++ more) (vs ++ ws) = (fill? more ws).map (ts ++ ·) := by
  induction h generalizing more ws with
  | lit c r hlow hhigh => simp [tokens, fill?, Function.comp_def]
  | place c r v => simp [tokens, fill?, Function.comp_def]
  | both _ _ iha ihb => simp [tokens, fill?, iha, ihb, Function.comp_def]
  | either _ _ iha ihb => simp [tokens, fill?, iha, ihb, Function.comp_def]

theorem uses (h : Fills c vs ts) : c.Uses vs := by
  induction h with
  | lit c r hlow hhigh => exact fun _ _ => rfl
  | place c r v => exact fun _ _ => rfl
  | both _ _ iha ihb =>
    intro cells more
    simp [Condition.eval, iha cells, ihb cells]
  | either _ _ iha ihb =>
    intro cells more
    simp [Condition.eval, iha cells, ihb cells]

theorem operand_eq (h : Fills c vs ts) (g : Group) (outer : List Group) (more : List Token) :
    operand cells g outer (ts ++ more) = operator cells (g.meet (c.eval cells vs).1) outer more := by
  -- A group is evaluated by itself, and what comes of it is a condition of the group around it.
  induction h generalizing g outer more with
  | lit c r hlow hhigh => rfl
  | place c r v => rfl
  | @both a b vs ws ts us ha hb iha ihb =>
    have heval : ((Condition.both a b).eval cells (vs ++ ws)).1 = and3 (a.eval cells vs).1 (b.eval cells ws).1 := by
      rw [Condition.eval, ha.uses]
    have hwords : (.opening :: ts ++ .and :: us ++ [.closing]) ++ more =
        .opening :: (ts ++ .and :: (us ++ .closing :: more)) := by
      simp
    rw [hwords, operand, iha, operator, ihb, operator, Group.truth_both, heval]
  | @either a b vs ws ts us ha hb iha ihb =>
    have heval : ((Condition.either a b).eval cells (vs ++ ws)).1 = or3 (a.eval cells vs).1 (b.eval cells ws).1 := by
      rw [Condition.eval, ha.uses]
    have hwords : (.opening :: ts ++ .or :: us ++ [.closing]) ++ more =
        .opening :: (ts ++ .or :: (us ++ .closing :: more)) := by
      simp
    rw [hwords, operand, iha, operator, ihb, operator, Group.truth_either, heval]

theorem count_places (h : Fills c vs ts) : c.text.toList.count '?' = vs.length := by
  have hname (c : Column) : c.name.toList.count '?' = 0 := by cases c <;> rfl
  have hsign (r : Relation) : r.sign.toList.count '?' = 0 := by cases r <;> rfl
  induction h with
  | @lit c r n hlow hhigh =>
    have hdigits : (toString n).toList.count '?' = 0 := List.count_eq_zero.mpr fun hmem => by
      cases Numeral.isDigit_of_mem_toString hlow hmem
    simpa [Condition.text, Operand.text, hname, hsign] using hdigits
  | place c r v => simp [Condition.text, Operand.text, hname, hsign]
  | both _ _ iha ihb => simp [Condition.text, iha, ihb]
  | either _ _ iha ihb => simp [Condition.text, iha, ihb]

end Fills

/-! ### Predicates -/

/-- The words of clauses behind another one, with values for their places. -/
inductive FillsAll : List Condition → List Cell → List Token → Prop
  | nil : FillsAll [] [] []
  | cons {c : Condition} {cs : List Condition} {vs ws : List Cell} {ts us : List Token} (h : Fills c vs ts)
    (hs : FillsAll cs ws us) : FillsAll (c :: cs) (vs ++ ws) (.and :: ts ++ us)

namespace FillsAll
variable {c : Condition} {cs : List Condition} {vs ws : List Cell} {ts us : List Token} {cells : Column → Cell}

theorem ended (cs : List Condition) : Ended (cs.flatMap fun c => " AND ".toList ++ c.text.toList) := by
  cases cs with
  | nil => nofun
  | cons c cs => exact ended_cons rfl _

theorem tokens?_eq (h : FillsAll cs vs ts) :
    tokens? (cs.flatMap fun c => " AND ".toList ++ c.text.toList) = some (cs.flatMap fun c => .and :: tokens c) := by
  induction h with
  | nil => rfl
  | @cons c cs vs ws ts us h _ ih =>
    rw [List.flatMap_cons, List.append_assoc, tokens?_and, h.tokens?_eq (ended cs), ih]
    rfl

theorem fill?_eq (h : FillsAll cs vs ts) : fill? (cs.flatMap fun c => .and :: tokens c) vs = some ts := by
  induction h with
  | nil => rfl
  | cons h _ ih => simp [fill?, h.fill?_eq, ih]

theorem operator_eq (h : FillsAll cs vs ts) (g : Group) :
    operator cells g [] ts = some (g.meet (evalAll cells cs vs)).truth := by
  induction h generalizing g with
  | nil =>
    rw [evalAll, Group.meet_true]
    rfl
  | @cons c cs vs ws ts us h _ ih =>
    rw [List.cons_append, operator, h.operand_eq, ih, evalAll, h.uses, Group.meet_meet]

theorem count_places (h : FillsAll cs vs ts) :
    (cs.flatMap fun c => " AND ".toList ++ c.text.toList).count '?' = vs.length := by
  induction h with
  | nil => rfl
  | cons h _ ih =>
    have hjoint : " AND ".toList.count '?' = 0 := rfl
    rw [List.flatMap_cons, List.count_append, List.count_append, hjoint, h.count_places, ih, List.length_append,
      Nat.zero_add]

theorem snoc (h : FillsAll cs vs ts) (hc : Fills c ws us) : FillsAll (cs ++ [c]) (vs ++ ws) (ts ++ .and :: us) := by
  induction h with
  | nil => simpa using FillsAll.nil.cons hc
  | cons h _ ih => simpa using ih.cons h

end FillsAll

end Restriction

/-- The values bound to a predicate are those for its places. -/
def Predicate.Spelled (p : Predicate) : Prop := ∃ ts, Restriction.FillsAll p.clauses p.bound ts

theorem Predicate.toList_whereText (c : Condition) (cs : List Condition) (bound : List Cell) :
    (Predicate.mk (c :: cs) bound).whereText.toList =
      " WHERE ".toList ++ (c.text.toList ++ cs.flatMap fun c => " AND ".toList ++ c.text.toList) := by
  rw [whereText, if_neg (by simp), String.toList_append, String.toList_intercalate, List.map_cons, List.map_cons,
    intercalate_cons, List.map_map, List.flatMap_map]
  rfl

namespace Restriction.FillsAll
variable {c : Condition} {cs : List Condition} {vs : List Cell} {ts : List Token} {r : Row}

/-- The text of a predicate with the values bound to it selects what the predicate does. -/
theorem selects?_eq (h : FillsAll cs vs ts) :
    selects? (Predicate.mk cs vs).whereText vs r.cell = some ((Predicate.mk cs vs).selects r) := by
  cases h with
  | nil => rfl
  | @cons c cs vs ws ts us h hs =>
    have hwords : tokens? (Predicate.mk (c :: cs) (vs ++ ws)).whereText.toList =
        some (.start :: (tokens c ++ cs.flatMap fun c => .and :: tokens c)) := by
      rw [Predicate.toList_whereText, tokens?_where, h.tokens?_eq (ended cs), hs.tokens?_eq]
      rfl
    have hfilled : fill? (.start :: (tokens c ++ cs.flatMap fun c => .and :: tokens c)) (vs ++ ws) =
        some (.start :: (ts ++ us)) := by
      rw [fill?, h.fill?_eq, hs.fill?_eq]
      · rfl
      all_goals nofun
    have htruth : operand r.cell {} [] (ts ++ us) = some (evalAll r.cell (c :: cs) (vs ++ ws)) := by
      rw [h.operand_eq, hs.operator_eq, Group.truth_both, evalAll, h.uses]
    rw [selects?, hwords, Option.bind_some, hfilled]
    dsimp only
    rw [htruth]
    rfl

theorem count_whereText (h : FillsAll cs vs ts) : (Predicate.mk cs vs).whereText.toList.count '?' = vs.length := by
  cases h with
  | nil => rfl
  | cons h hs =>
    have hwhere : " WHERE ".toList.count '?' = 0 := rfl
    rw [Predicate.toList_whereText, List.count_append, List.count_append, hwhere, h.count_places, hs.count_places,
      List.length_append, Nat.zero_add]

end Restriction.FillsAll

/-! ### Filters -/

/-- Filters that ask for the same things, whatever values these shall have. -/
structure Filter.SameShape (f g : Filter) : Prop where
  includeInactive : f.includeInactive = g.includeInactive
  isFile : f.isFile.isSome = g.isFile.isSome
  mime : f.mime.isSome = g.mime.isSome
  filename : f.filename.isSome = g.filename.isSome
  order : f.order = g.order

open Restriction

theorem Predicate.Spelled.add {p : Predicate} {c : Condition} {vs : List Cell} {ts : List Token} (hp : p.Spelled)
    (hc : Fills c vs ts) : (p.add c vs).Spelled := by
  obtain ⟨us, hus⟩ := hp
  exact ⟨_, hus.snoc hc⟩

namespace Filter
variable {f g : Filter} {cursor d : Option Cursor} {r : Row}

theorem spelled_predicate (f : Filter) : f.predicate.Spelled := by
  have hnone : Predicate.Spelled ⟨[], []⟩ := ⟨[], .nil⟩
  have hactive : Fills (.test .isActive .eq (.lit 1)) [] _ := .lit .isActive .eq (by decide) (by decide)
  have hcolumn (c : Column) (v : Cell) : Fills (.test c .eq .place) [v] _ := .place c .eq v
  unfold predicate
  cases f.includeInactive <;> cases f.isFile <;> cases f.mime <;> cases f.filename
  all_goals
    simp only [if_true, if_false, Bool.false_eq_true]
    repeat' refine Predicate.Spelled.add ?_ (hcolumn _ _)
    all_goals first | exact hnone | exact hnone.add hactive

theorem spelled_predicateAfter (f : Filter) (cursor : Option Cursor) : (f.predicateAfter cursor).Spelled := by
  cases cursor with
  | none => exact f.spelled_predicate
  | some c => exact f.spelled_predicate.add (.either (.place _ _ _) (.both (.place _ _ _) (.place _ _ _)))

theorem clauses_eq (f : Filter) (cursor : Option Cursor) : (f.predicateAfter cursor).clauses =
    (if f.includeInactive then [] else [.test .isActive .eq (.lit 1)]) ++
      (if f.isFile.isSome then [.test .isFile .eq .place] else []) ++
      (if f.mime.isSome then [.test .mime .eq .place] else []) ++
      (if f.filename.isSome then [.test .filename .eq .place] else []) ++
      if cursor.isSome then [f.order.past] else [] := by
  unfold predicateAfter predicate
  cases f.includeInactive <;> cases f.isFile <;> cases f.mime <;> cases f.filename <;> cases cursor <;> rfl

theorem SameShape.whereText_eq (h : f.SameShape g) (hcursor : cursor.isSome = d.isSome) :
    (f.predicateAfter cursor).whereText = (g.predicateAfter d).whereText := by
  have hclauses : (f.predicateAfter cursor).clauses = (g.predicateAfter d).clauses := by
    rw [clauses_eq, clauses_eq, h.includeInactive, h.isFile, h.mime, h.filename, h.order, hcursor]
  rw [Predicate.whereText, hclauses, ← Predicate.whereText]

/-- The condition of standing past a cursor is not true of a row without a time. -/
theorem past_iff (o : Order) (c : Cursor) :
    (o.past.eval r.cell [.int c.createdAt, .int c.createdAt, .int c.id]).1 = some true ↔
      ∃ t, r.createdAt = some t ∧ o.before c ⟨t, r.id⟩ := by
  cases hr : r.createdAt with
  | none =>
    have htime : r.cell .createdAt = .null := by
      rw [Row.cell, hr]
      rfl
    have hunknown (x : Option Bool) : or3 none (and3 none x) ≠ some true := by
      rcases x with _ | _ | _ <;> decide
    cases o with
    | desc => simp [Order.past, Condition.eval, htime, Relation.holds, hunknown]
    | asc => simp [Order.past, Condition.eval, htime, Relation.holds, hunknown]
  | some t =>
    rw [Order.past_iff hr]
    simp [Row.cursor, Record.cursor, Row.record, hr]

/-- The text that restricts a listing, with the values bound to its places from left to right, selects the rows that the
filter asks for and that stand past the cursor; an unknown comparison selects none. There is a place for each value, and
the values have no part in the text. -/
theorem whereText_selects (f : Filter) (cursor : Option Cursor) :
    (∀ r : Row, selects? (f.predicateAfter cursor).whereText (f.predicateAfter cursor).bound r.cell =
        some ((f.predicateAfter cursor).selects r) ∧
      ((f.predicateAfter cursor).selects r = true ↔ (r.isActive = true ∨ f.includeInactive = true) ∧
        (∀ isFile ∈ f.isFile, r.isFile = isFile) ∧ (∀ mime ∈ f.mime, r.mime = some mime) ∧
        (∀ name ∈ f.filename, r.filename = some name) ∧
        ∀ c ∈ cursor, ∃ t, r.createdAt = some t ∧ f.order.before c ⟨t, r.id⟩)) ∧
    (f.predicateAfter cursor).whereText.toList.count '?' = (f.predicateAfter cursor).bound.length ∧
    ∀ g d, f.SameShape g → cursor.isSome = d.isSome →
      (f.predicateAfter cursor).whereText = (g.predicateAfter d).whereText := by
  obtain ⟨ts, hspelled⟩ := f.spelled_predicateAfter cursor
  refine ⟨fun r => ⟨hspelled.selects?_eq, ?_⟩, hspelled.count_whereText, fun g d hshape => hshape.whereText_eq⟩
  have hactive : (f.includeInactive = false → r.isActive = true) ↔ r.isActive = true ∨ f.includeInactive = true := by
    cases f.includeInactive <;> simp
  cases cursor with
  | none =>
    rw [predicateAfter, selects_iff, hactive]
    simp
  | some c =>
    rw [selects_past_iff, selects_iff, past_iff, hactive]
    simp [and_assoc]

example : ({ mime := some "? OR 1 = 1" } : Filter).predicate.whereText = " WHERE is_active = 1 AND mime = ?" := by
  decide

end Filter

end Pasteboard
