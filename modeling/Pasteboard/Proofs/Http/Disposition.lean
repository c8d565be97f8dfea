import Mathlib.Data.List.Forall2
import Pasteboard.Http.Message
import Pasteboard.Http.Multipart
import Pasteboard.Proofs.Text.Reading
/-!
What the disposition of a file says.

Between the quotes no character stands that could end them, and no byte that a header line may not have: the bytes of a
character beyond ASCII are all beyond ASCII. So the value is always the one that names the file. Any reading of it finds
the kind and one parameter, and a line with it is one header line, whatever the name of the file is.
-/

namespace Pasteboard.Http

open Pasteboard.Text

/-! ### What is asked of a value -/

/-- Characters that may not stand between quotes as they are. -/
def Unquotable (c : Char) : Prop := c = '"' ∨ c = '\\' ∨ isControl c = true

/-- A character as it is shown: an underscore if it is unquotable, else itself. -/
def Masks (c shown : Char) : Prop := Unquotable c ∧ shown = '_' ∨ ¬Unquotable c ∧ shown = c

/-- What is read behind a quote up to the next one, and what follows. A backslash stands before a character that is
meant as it is. -/
inductive Quotes : List Char → List Char → List Char → Prop
  | close {rest : List Char} : Quotes ('"' :: rest) [] rest
  | plain {c : Char} {text said rest : List Char} (hquote : c ≠ '"') (hslash : c ≠ '\\') (h : Quotes text said rest) :
      Quotes (c :: text) (c :: said) rest
  | escaped {c : Char} {text said rest : List Char} (h : Quotes text said rest) :
      Quotes ('\\' :: c :: text) (c :: said) rest

/-- A word of token characters. -/
def IsToken (cs : List Char) : Prop := cs ≠ [] ∧ ∀ c ∈ cs, isTokenChar c = true

/-- The value of a parameter, and what follows: a token, or any text in quotes. -/
inductive Means : List Char → List Char → List Char → Prop
  | token {said rest : List Char} (h : IsToken said) : Means (said ++ rest) said rest
  | quoted {text said rest : List Char} (h : Quotes text said rest) : Means ('"' :: text) said rest

/-- Spaces and tabs between parameters. -/
def isSpacing (c : Char) : Bool := c == ' ' || c == '\t'

/-- Parameters: each stands behind a semicolon, with its name, an equals sign and its value. -/
inductive Lists : List Char → List (List Char × List Char) → Prop
  | nil : Lists [] []
  | cons {before after name text said rest : List Char} {params : List (List Char × List Char)}
      (hbefore : ∀ c ∈ before, isSpacing c = true) (hafter : ∀ c ∈ after, isSpacing c = true) (hname : IsToken name)
      (hmeans : Means text said rest) (hrest : Lists rest params) :
      Lists (before ++ ';' :: (after ++ (name ++ '=' :: text))) ((name, said) :: params)

/-- A disposition: a kind and parameters. -/
inductive Reads : List Char → List Char → List (List Char × List Char) → Prop
  | intro {kind rest : List Char} {params : List (List Char × List Char)} (hkind : IsToken kind)
      (hrest : Lists rest params) : Reads (kind ++ rest) kind params

/-- A header line. -/
def lineOf (name value : String) : List UInt8 :=
  name.toUTF8.toList ++ 58 :: 32 :: (value.toUTF8.toList ++ Multipart.lineEnd)

/-- A value says that it is of a kind and that the file has a name, which it shows in quotes. -/
structure Names (kind name value shown : String) : Prop where
  masks : List.Forall₂ Masks name.toList shown.toList
  clean : ∀ c ∈ shown.toList, ¬Unquotable c
  value_eq : value = kind ++ "; filename=\"" ++ shown ++ "\""
  reads : ∀ k params, Reads value.toList k params ↔ k = kind.toList ∧ params = [("filename".toList, shown.toList)]
  line : ∀ more, Multipart.headerLine? (lineOf "content-disposition" value ++ more) =
    some (Header.of "content-disposition" value, more)

variable {c d : Char} {cs shown kind : List Char}

theorem isToken_of_all (hne : cs ≠ []) (h : cs.all isTokenChar = true) : IsToken cs := ⟨hne, List.all_eq_true.mp h⟩

/-! ### Masks -/

theorem masks_masked (c : Char) : Masks c (masked c) := by
  have hiff : (c == '"' || c == '\\' || isControl c) = true ↔ Unquotable c := by simp [Unquotable, or_assoc]
  by_cases h : Unquotable c
  · exact Or.inl ⟨h, if_pos (hiff.mpr h)⟩
  · exact Or.inr ⟨h, if_neg (mt hiff.mp h)⟩

theorem Masks.clean (h : Masks c d) : ¬Unquotable d := by
  rcases h with ⟨-, rfl⟩ | ⟨h, rfl⟩
  · simp [Unquotable, isControl]
  · exact h

theorem forall₂_masked (cs : List Char) : List.Forall₂ Masks cs (cs.map masked) := by
  rw [List.forall₂_map_right_iff, List.forall₂_same]
  exact fun c _ => masks_masked c

theorem clean_of_masked (h : d ∈ cs.map masked) : ¬Unquotable d := by
  obtain ⟨c, -, rfl⟩ := List.mem_map.mp h
  exact (masks_masked c).clean

/-! ### Bytes of a value -/

/-- A text may be a value just if no character of it is an ASCII control character but the tab. -/
theorem isHeaderValue_iff {s : String} :
    isHeaderValue s = true ↔ ∀ c ∈ s.toList, c.toNat = 9 ∨ 32 ≤ c.toNat ∧ c.toNat ≠ 127 := by
  have hbyte (b : UInt8) : isValueByte b = true ↔ b.toNat = 9 ∨ 32 ≤ b.toNat ∧ b.toNat ≠ 127 := by
    simp [isValueByte, ← UInt8.toNat_inj, UInt8.le_iff_toNat_le]
  rw [isHeaderValue, toList_toUTF8, List.all_flatMap, List.all_eq_true]
  refine forall₂_congr fun c _ => ?_
  rw [List.all_eq_true]
  by_cases hascii : c.toNat ≤ 127
  · have hsame : (UInt8.ofNat c.toNat).toNat = c.toNat :=
      UInt8.toNat_ofNat_of_lt' (Nat.lt_of_le_of_lt hascii (by decide))
    rw [utf8EncodeChar_ascii hascii]
    simp only [List.mem_singleton, forall_eq, hbyte, hsame]
  · have hbeyond : 127 < c.toNat := Nat.lt_of_not_le hascii
    refine ⟨fun _ => by omega, fun _ b hb => (hbyte b).mpr ?_⟩
    have := le_of_mem_utf8EncodeChar hbeyond hb
    omega

theorem toNat_of_clean (h : ¬Unquotable c) : 32 ≤ c.toNat ∧ c.toNat ≠ 127 := by
  have hcontrol : ¬isControl c = true := fun hc => h (Or.inr (Or.inr hc))
  simp only [isControl, Bool.or_eq_true, Bool.and_eq_true, decide_eq_true_eq] at hcontrol
  omega

theorem toNat_of_isTokenChar (h : isTokenChar c = true) : 32 < c.toNat ∧ c.toNat < 127 := by
  rw [isTokenChar, Bool.or_eq_true] at h
  rcases h with hword | hmark
  · have hcases : (c.isUpper || c.isLower || c.isDigit) = true := hword
    simp only [Bool.or_eq_true] at hcases
    rcases hcases with (hupper | hlower) | hdigit
    · obtain ⟨hlow, hhigh⟩ : 65 ≤ c.toNat ∧ c.toNat ≤ 90 := of_decide_eq_true hupper
      omega
    · obtain ⟨hlow, hhigh⟩ := Bool.and_eq_true_iff.mp hlower
      have hlow : 97 ≤ c.toNat := of_decide_eq_true hlow
      have hhigh : c.toNat ≤ 122 := of_decide_eq_true hhigh
      omega
    · have := Numeral.toNat_of_isDigit hdigit
      omega
  · have hall : ("!#$%&'*+-.^_`|~".toList.all fun c => 32 < c.toNat && c.toNat < 127) = true := by decide
    simpa using List.all_eq_true.mp hall c (List.contains_iff_mem.mp hmark)

theorem isHeaderValue_append (s t : String) : isHeaderValue (s ++ t) = (isHeaderValue s && isHeaderValue t) := by
  rw [isHeaderValue, toList_toUTF8_append, List.all_append]
  rfl

/-- The value that names a file is one that a header line may have. -/
theorem isHeaderValue_named {kind : String} (hkind : IsToken kind.toList) (name : String) :
    isHeaderValue (kind ++ "; filename=\"" ++ String.ofList (name.toList.map masked) ++ "\"") = true := by
  have hfirst : isHeaderValue kind = true := isHeaderValue_iff.mpr fun c hc => by
    have := toNat_of_isTokenChar (hkind.2 c hc)
    omega
  have hshown : isHeaderValue (String.ofList (name.toList.map masked)) = true := isHeaderValue_iff.mpr fun c hc => by
    rw [String.toList_ofList] at hc
    exact Or.inr (toNat_of_clean (clean_of_masked hc))
  have hbetween : isHeaderValue "; filename=\"" = true := by decide +kernel
  have hlast : isHeaderValue "\"" = true := by decide +kernel
  simp only [isHeaderValue_append, hfirst, hbetween, hshown, hlast, Bool.and_self]

theorem contentDisposition_eq {kind : String} (hkind : IsToken kind.toList) (name : String) :
    contentDisposition kind name = kind ++ "; filename=\"" ++ String.ofList (name.toList.map masked) ++ "\"" :=
  if_pos (isHeaderValue_named hkind name)

/-! ### Readings of a value -/

section Split
variable {α : Type} {p : α → Bool} {w rest w' rest' : List α}

theorem head_stops {x : α} {xs : List α} (h : p x = false) : ∀ y ∈ (x :: xs).head?, p y = false := by
  rintro _ ⟨rfl⟩
  exact h

/-- A run of elements with a property ends where the property does. -/
theorem span_append (hw : ∀ x ∈ w, p x = true) (hrest : ∀ x ∈ rest.head?, p x = false) :
    (w ++ rest).takeWhile p = w ∧ (w ++ rest).dropWhile p = rest := by
  rw [List.takeWhile_append_of_pos hw, List.dropWhile_append_of_pos hw, dropWhile_eq hrest]
  cases rest with
  | nil => simp
  | cons x rest => simp [hrest x rfl]

theorem append_unique (hw : ∀ x ∈ w, p x = true) (hrest : ∀ x ∈ rest.head?, p x = false) (hw' : ∀ x ∈ w', p x = true)
    (hrest' : ∀ x ∈ rest'.head?, p x = false) (h : w ++ rest = w' ++ rest') : w = w' ∧ rest = rest' := by
  obtain ⟨htake, hdrop⟩ := span_append hw hrest
  obtain ⟨htake', hdrop'⟩ := span_append hw' hrest'
  rw [← h] at htake' hdrop'
  exact ⟨htake.symm.trans htake', hdrop.symm.trans hdrop'⟩

end Split

/-- Text without quotes and backslashes is read as it is, and the next quote ends it. -/
theorem quotes_iff (h : ∀ c ∈ shown, ¬Unquotable c) {said rest : List Char} :
    Quotes (shown ++ ['"']) said rest ↔ said = shown ∧ rest = [] := by
  induction shown generalizing said with
  | nil =>
    refine ⟨fun hquotes => ?_, ?_⟩
    · cases hquotes with
      | close => exact ⟨rfl, rfl⟩
      | plain hquote => exact absurd rfl hquote
    · rintro ⟨rfl, rfl⟩
      exact .close
  | cons c shown ih =>
    have hquote : c ≠ '"' := fun hc => h c (.head _) (Or.inl hc)
    have hslash : c ≠ '\\' := fun hc => h c (.head _) (Or.inr (Or.inl hc))
    have ih (said : List Char) : Quotes (shown ++ ['"']) said rest ↔ said = shown ∧ rest = [] :=
      ih fun c hc => h c (.tail _ hc)
    rw [List.cons_append]
    constructor
    · generalize shown ++ ['"'] = text at ih
      intro hquotes
      cases hquotes with
      | close => exact absurd rfl hquote
      | plain _ _ hquotes =>
        obtain ⟨rfl, hrest⟩ := (ih _).mp hquotes
        exact ⟨rfl, hrest⟩
      | escaped => exact absurd rfl hslash
    · rintro ⟨rfl, hrest⟩
      exact .plain hquote hslash ((ih _).mpr ⟨rfl, hrest⟩)

theorem not_isTokenChar_of_isSpacing (h : isSpacing c = true) : isTokenChar c = false := by
  simp only [isSpacing, Bool.or_eq_true, beq_iff_eq] at h
  rcases h with rfl | rfl <;> decide

/-- A token does not begin with a gap. -/
theorem IsToken.not_isSpacing (h : IsToken cs) (more : List Char) : ∀ c ∈ (cs ++ more).head?, isSpacing c = false := by
  obtain ⟨hne, hall⟩ := h
  cases cs with
  | nil => exact absurd rfl hne
  | cons c cs =>
    rintro _ ⟨rfl⟩
    by_contra hspacing
    have htoken := not_isTokenChar_of_isSpacing (Bool.not_eq_false _ ▸ hspacing)
    cases htoken.symm.trans (hall c (.head _))

/-- What follows a kind does not go on with it. -/
theorem Lists.not_isTokenChar {params : List (List Char × List Char)} (h : Lists cs params) :
    ∀ c ∈ cs.head?, isTokenChar c = false := by
  cases h with
  | nil => exact fun c hc => absurd hc (by simp)
  | @cons before after name text said rest params hbefore _ _ _ _ =>
    cases before with
    | nil =>
      rintro _ ⟨rfl⟩
      decide
    | cons c before =>
      rintro _ ⟨rfl⟩
      exact not_isTokenChar_of_isSpacing (hbefore c (.head _))

theorem Lists.eq_nil {params : List (List Char × List Char)} (h : Lists cs params) (hcs : cs = []) : params = [] := by
  cases h with
  | nil => rfl
  | cons => simp at hcs

theorem means_iff (h : ∀ c ∈ shown, ¬Unquotable c) {said rest : List Char} :
    Means ('"' :: (shown ++ ['"'])) said rest ↔ said = shown ∧ rest = [] := by
  rw [← quotes_iff h]
  constructor
  · generalize htext : '"' :: (shown ++ ['"']) = text
    intro hmeans
    cases hmeans with
    | token htoken =>
      -- A quote begins no token.
      cases said with
      | nil => exact absurd rfl htoken.1
      | cons c said =>
        obtain ⟨rfl, -⟩ := List.cons.inj htext
        exact absurd (htoken.2 '"' (.head _)) (by decide)
    | quoted hquotes => exact (List.cons.inj htext).2 ▸ hquotes
  · exact .quoted

theorem isToken_filename : IsToken "filename".toList := isToken_of_all (by decide) (by decide)

/-- A clean text in quotes is the one parameter: spaces, name and value are where they were put. -/
theorem lists_iff (h : ∀ c ∈ shown, ¬Unquotable c) {params : List (List Char × List Char)} :
    Lists (';' :: ([' '] ++ ("filename".toList ++ '=' :: '"' :: (shown ++ ['"'])))) params ↔
      params = [("filename".toList, shown)] := by
  have hspace : ∀ c ∈ [' '], isSpacing c = true := List.forall_mem_singleton.mpr rfl
  have hnone : ∀ c ∈ ([] : List Char), isSpacing c = true := List.forall_mem_nil _
  constructor
  · generalize htext : ';' :: ([' '] ++ ("filename".toList ++ '=' :: '"' :: (shown ++ ['"']))) = text
    intro hlist
    cases hlist with
    | nil => cases htext
    | @cons before after name text said rest params hbefore hafter hname hmeans hrest =>
      obtain ⟨-, hbehind⟩ := append_unique (w := []) hnone (head_stops rfl) hbefore (head_stops rfl) htext
      obtain ⟨-, hparam⟩ := append_unique hspace (isToken_filename.not_isSpacing _) hafter (hname.not_isSpacing _)
        (List.cons.inj hbehind).2
      obtain ⟨rfl, hvalue⟩ := append_unique isToken_filename.2 (head_stops rfl) hname.2 (head_stops rfl) hparam
      rw [← (List.cons.inj hvalue).2] at hmeans
      obtain ⟨rfl, rfl⟩ := (means_iff h).mp hmeans
      rw [hrest.eq_nil rfl]
  · rintro rfl
    exact .cons hnone hspace isToken_filename ((means_iff h).mpr ⟨rfl, rfl⟩) .nil

/-- However a value is read that shows a clean text in quotes, it has the kind and the one parameter. -/
theorem reads_iff (hkind : IsToken kind) (hshown : ∀ c ∈ shown, ¬Unquotable c) {k : List Char}
    {params : List (List Char × List Char)} :
    Reads (kind ++ ';' :: ([' '] ++ ("filename".toList ++ '=' :: '"' :: (shown ++ ['"'])))) k params ↔
      k = kind ∧ params = [("filename".toList, shown)] := by
  rw [← lists_iff hshown]
  constructor
  · generalize htext : kind ++ ';' :: ([' '] ++ ("filename".toList ++ '=' :: '"' :: (shown ++ ['"']))) = text
    rintro ⟨hk, hlist⟩
    obtain ⟨rfl, hrest⟩ := append_unique hkind.2 (head_stops rfl) hk.2 hlist.not_isTokenChar htext
    exact ⟨rfl, hrest ▸ hlist⟩
  · rintro ⟨rfl, hlist⟩
    exact .intro hkind hlist

/-! ### Lines -/

section Line
variable {name value : List UInt8}

theorem dropWhile_isGap_reverse (h : ∀ b ∈ value.getLast?, Multipart.isGap b = false) :
    (value.reverse.dropWhile Multipart.isGap).reverse = value := by
  rw [← List.head?_reverse] at h
  rw [dropWhile_eq h, List.reverse_reverse]

/-- A line is read with its name and its value, and what follows it is left. -/
theorem headerLine?_eq (hne : name ≠ []) (hname : ∀ b ∈ name, Multipart.isNameByte b = true)
    (hvalue : ∀ b ∈ value, isValueByte b = true) (hfirst : ∀ b ∈ value.head?, Multipart.isGap b = false)
    (hlast : ∀ b ∈ value.getLast?, Multipart.isGap b = false) (hvalue' : value ≠ []) (more : List UInt8) :
    Multipart.headerLine? (name ++ 58 :: 32 :: (value ++ 13 :: 10 :: more)) = some (.ofBytes name value, more) := by
  have hcolon : ∀ b ∈ (58 :: 32 :: (value ++ 13 :: 10 :: more)).head?, Multipart.isNameByte b = false :=
    head_stops (by decide)
  have hend : ∀ b ∈ (13 :: 10 :: more).head?, isValueByte b = false := head_stops (by decide)
  obtain ⟨hname₁, hname₂⟩ := span_append hname hcolon
  obtain ⟨hvalue₁, hvalue₂⟩ := span_append hvalue hend
  have hgap : (32 :: (value ++ 13 :: 10 :: more)).dropWhile Multipart.isGap = value ++ 13 :: 10 :: more := by
    obtain ⟨b, value, rfl⟩ := List.exists_cons_of_ne_nil hvalue'
    exact (span_append (w := [32]) (List.forall_mem_singleton.mpr rfl) (head_stops (hfirst b rfl))).2
  have hempty : name.isEmpty = false := by simpa using hne
  simp only [Multipart.headerLine?, hname₁, hname₂, hempty, hgap, hvalue₁, hvalue₂, dropWhile_isGap_reverse hlast]
  rfl

end Line

theorem ofBytes_toUTF8 (value : String) :
    Header.ofBytes "content-disposition".toUTF8.toList value.toUTF8.toList = .of "content-disposition" value := by
  have hname : lower (String.ofList ("content-disposition".toUTF8.toList.map fun b => Char.ofNat b.toNat)) =
      lower "content-disposition" := by decide +kernel
  have hvalue : ByteArray.mk value.toUTF8.toList.toArray = value.toUTF8 := by rw [toList_toUTF8, ← toUTF8_eq]
  rw [Header.ofBytes, Header.of, hname, hvalue]

/-- The bytes of a text that begins with a token do not begin with a gap. -/
theorem IsToken.exists_bytes {s : String} {rest : List Char} (h : IsToken kind) (hs : s.toList = kind ++ rest) :
    ∃ b bytes, s.toUTF8.toList = b :: bytes ∧ Multipart.isGap b = false := by
  obtain ⟨hne, htoken⟩ := h
  obtain ⟨c, kind, rfl⟩ := List.exists_cons_of_ne_nil hne
  have hc := toNat_of_isTokenChar (htoken c (.head _))
  have hb : (UInt8.ofNat c.toNat).toNat = c.toNat := UInt8.toNat_ofNat_of_lt' (hc.2.trans (by decide))
  have hbytes : s.toUTF8.toList = UInt8.ofNat c.toNat :: (kind ++ rest).flatMap String.utf8EncodeChar := by
    rw [toList_toUTF8, hs, List.cons_append, List.flatMap_cons, utf8EncodeChar_ascii (by omega)]
    rfl
  refine ⟨_, _, hbytes, ?_⟩
  simp only [Multipart.isGap, Bool.or_eq_false_iff, beq_eq_false_iff_ne, ne_eq, ← UInt8.toNat_inj, hb,
    UInt8.reduceToNat]
  omega

/-- A line with a value that begins with a token and ends with a quote is read back as it was written. -/
theorem headerLine?_lineOf {value front : String} {rest : List Char} (hvalue : isHeaderValue value = true)
    (hkind : IsToken kind) (hfirst : value.toList = kind ++ rest) (hlast : value = front ++ "\"") (more : List UInt8) :
    Multipart.headerLine? (lineOf "content-disposition" value ++ more) =
      some (.of "content-disposition" value, more) := by
  obtain ⟨b, bytes, hbytes, hgap⟩ := hkind.exists_bytes hfirst
  have hbefore : ∀ b ∈ value.toUTF8.toList.head?, Multipart.isGap b = false := by
    rw [hbytes]
    exact head_stops hgap
  have hafter : ∀ b ∈ value.toUTF8.toList.getLast?, Multipart.isGap b = false := by
    have hquote : "\"".toUTF8.toList = [34] := by decide +kernel
    rw [hlast, toList_toUTF8_append, hquote, List.getLast?_concat]
    rintro _ ⟨rfl⟩
    decide
  have hname : ("content-disposition".toUTF8.toList.all Multipart.isNameByte) = true := by decide +kernel
  have hline : lineOf "content-disposition" value ++ more =
      "content-disposition".toUTF8.toList ++ 58 :: 32 :: (value.toUTF8.toList ++ 13 :: 10 :: more) := by
    simp [lineOf, Multipart.lineEnd]
  rw [hline, headerLine?_eq (by decide +kernel) (List.all_eq_true.mp hname) (List.all_eq_true.mp hvalue) hbefore hafter
    (hbytes ▸ List.cons_ne_nil b bytes), ofBytes_toUTF8]

theorem names_contentDisposition {kind : String} (hkind : IsToken kind.toList) (name : String) :
    Names kind name (contentDisposition kind name) (String.ofList (name.toList.map masked)) := by
  have hclean : ∀ c ∈ name.toList.map masked, ¬Unquotable c := fun c hc => clean_of_masked hc
  have hshown : (String.ofList (name.toList.map masked)).toList = name.toList.map masked := String.toList_ofList
  rw [contentDisposition_eq hkind]
  have hlist : (kind ++ "; filename=\"" ++ String.ofList (name.toList.map masked) ++ "\"").toList = kind.toList ++
      ';' :: ([' '] ++ ("filename".toList ++ '=' :: '"' :: (name.toList.map masked ++ ['"']))) := by simp
  exact {
    masks := by rw [hshown]; exact forall₂_masked name.toList
    clean := by rw [hshown]; exact hclean
    value_eq := rfl
    reads := fun k params => by rw [hlist, hshown]; exact reads_iff hkind hclean
    line := headerLine?_lineOf (isHeaderValue_named hkind name) hkind hlist rfl }

end Pasteboard.Http
