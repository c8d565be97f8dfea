import Pasteboard.Proofs.Json.Strings
import Pasteboard.Proofs.Named
/-!
Objects of texts that are written are read back.

The bytes of an object are cut into its tokens, piece by piece, and the tokens are read member by member. The first name
must not be the one that makes an object stand for another value.
-/

namespace Pasteboard.Json

open Text

variable {bytes bytes' rest : List UInt8} {ts ts' : List Token} {t : Token} {b : UInt8} {out : List Token}
  {members : List (String × String)} {inner : String → Option Json}

/-! ### Tokens -/

/-- However much follows, bytes are cut into tokens before it. -/
def Lexed (bytes : List UInt8) (ts : List Token) : Prop :=
  ∀ fuel out rest, bytes.length + rest.length ≤ fuel → ∃ fuel', rest.length ≤ fuel' ∧
    tokensOnto fuel out (bytes ++ rest) = tokensOnto fuel' (ts.reverse ++ out) rest

theorem Lexed.nil : Lexed [] [] := fun fuel _ _ h => ⟨fuel, by simpa using h, rfl⟩

theorem Lexed.append (h : Lexed bytes ts) (h' : Lexed bytes' ts') : Lexed (bytes ++ bytes') (ts ++ ts') := by
  intro fuel out rest hfuel
  rw [List.length_append] at hfuel
  obtain ⟨fuel₁, hfuel₁, hrun₁⟩ := h fuel out (bytes' ++ rest) (by rw [List.length_append]; omega)
  obtain ⟨fuel₂, hfuel₂, hrun₂⟩ := h' fuel₁ (ts.reverse ++ out) rest (by rwa [List.length_append] at hfuel₁)
  refine ⟨fuel₂, hfuel₂, ?_⟩
  rw [List.append_assoc, hrun₁, hrun₂, List.reverse_append, List.append_assoc]

theorem Lexed.token (hspace : isSpace b = false)
    (h : ∀ rest, tokenFrom b (bytes ++ rest) = some (t, rest)) : Lexed (b :: bytes) [t] := by
  intro fuel out rest hfuel
  obtain ⟨fuel, rfl⟩ : ∃ k, fuel = k + 1 := ⟨fuel - 1, by rw [List.length_cons] at hfuel; omega⟩
  refine ⟨fuel, by rw [List.length_cons] at hfuel; omega, ?_⟩
  rw [List.cons_append, tokensOnto, hspace, if_neg Bool.false_ne_true, h]
  rfl

theorem Lexed.mark (hspace : isSpace b = false) (h : ∀ rest, tokenFrom b rest = some (t, rest)) : Lexed [b] [t] :=
  .token hspace h

theorem Lexed.quote (s : String) : Lexed (quote s).toUTF8.toList [.str (some s)] := by
  rw [toList_quote]
  refine .token rfl fun rest => ?_
  rw [List.append_assoc]
  exact tokenFrom_quote s rest

theorem Lexed.flatMap {α : Type} {f : α → List UInt8} {g : α → List Token} (h : ∀ a, Lexed (f a) (g a)) (l : List α) :
    Lexed (l.flatMap f) (l.flatMap g) := by
  induction l with
  | nil => exact .nil
  | cons a l ih => exact (h a).append ih

theorem Lexed.tokens_eq (h : Lexed bytes ts) : tokens bytes = ts := by
  obtain ⟨fuel, -, hrun⟩ := h bytes.length [] [] (by simp)
  rw [List.append_nil, List.append_nil] at hrun
  rw [tokens, hrun]
  cases fuel <;> rw [tokensOnto, List.reverse_reverse]

/-! ### Objects of texts -/

/-- Texts by name as values by name. -/
def texts (members : List (String × String)) : List (String × Json) := members.map fun m => (m.1, .str m.2)

/-- The bytes of a member. -/
def memberBytes (m : String × String) : List UInt8 := (quote m.1).toUTF8.toList ++ 0x3A :: (quote m.2).toUTF8.toList

/-- The tokens of a member. -/
def memberTokens (m : String × String) : List Token := [.str (some m.1), .colon, .str (some m.2)]

theorem lexed_member (m : String × String) : Lexed (memberBytes m) (memberTokens m) := by
  have hcolon : Lexed [0x3A] [.colon] := .mark rfl fun _ => rfl
  exact (Lexed.quote m.1).append (hcolon.append (Lexed.quote m.2))

theorem renderMembers_texts (members : List (String × String)) :
    renderMembers (texts members) = members.map fun m => quote m.1 ++ ":" ++ quote m.2 := by
  induction members with
  | nil => rfl
  | cons m members ih =>
    rw [texts, List.map_cons, renderMembers, ← texts, ih, List.map_cons, render]

/-- The bytes of an object that has members. -/
theorem toList_render (m : String × String) (members : List (String × String)) :
    (render (.obj (texts (m :: members)))).toUTF8.toList =
      0x7B :: (memberBytes m ++ members.flatMap (fun m => 0x2C :: memberBytes m) ++ [0x7D]) := by
  have hmember (m : String × String) :
      (quote m.1 ++ ":" ++ quote m.2).toList.flatMap String.utf8EncodeChar = memberBytes m := by
    rw [← toList_toUTF8, toList_toUTF8_append, toList_toUTF8_append, toList_toUTF8 ":", List.append_assoc]
    rfl
  have hopen : "\x7b".toUTF8.toList = [0x7B] := (toList_toUTF8 _).trans rfl
  have hclose : "\x7d".toUTF8.toList = [0x7D] := (toList_toUTF8 _).trans rfl
  have hsep : ",".toList = [','] := rfl
  have hnext (m : String × String) :
      (',' :: (quote m.1 ++ ":" ++ quote m.2).toList).flatMap String.utf8EncodeChar = 0x2C :: memberBytes m := by
    rw [List.flatMap_cons, hmember]
    rfl
  rw [render, toList_toUTF8_append, toList_toUTF8_append, hopen, hclose, renderMembers_texts, toList_toUTF8,
    String.toList_intercalate, hsep, List.map_cons, List.map_cons, intercalate_cons, List.flatMap_append, hmember,
    List.map_map, List.flatMap_map, List.flatMap_assoc]
  simp only [Function.comp_apply, hnext, List.cons_append, List.nil_append]

theorem toList_render_nil : (render (.obj (texts []))).toUTF8.toList = [0x7B, 0x7D] := (toList_toUTF8 _).trans rfl

theorem size_render (name text : String) : (render (.obj (texts [(name, text)]))).toUTF8.size =
    7 + (name.toList.map writtenSize).sum + (text.toList.map writtenSize).sum := by
  rw [← length_toUTF8, toList_render, memberBytes]
  simp only [List.flatMap_nil, List.append_nil, List.length_cons, List.length_append, length_quote, List.length_nil]
  omega

/-- The tokens of the members after the first one, and of the end. -/
def laterTokens (members : List (String × String)) : List Token :=
  members.flatMap (fun m => .comma :: memberTokens m) ++ [.closeObject]

/-- The tokens of an object of texts. -/
def objectTokens : List (String × String) → List Token
  | [] => [.openObject, .closeObject]
  | m :: members => .openObject :: (memberTokens m ++ laterTokens members)

theorem tokens_render (members : List (String × String)) :
    tokens (render (.obj (texts members))).toUTF8.toList = objectTokens members := by
  have hopen : Lexed [0x7B] [.openObject] := .mark rfl fun _ => rfl
  have hclose : Lexed [0x7D] [.closeObject] := .mark rfl fun _ => rfl
  have hcomma : Lexed [0x2C] [.comma] := .mark rfl fun _ => rfl
  refine Lexed.tokens_eq ?_
  cases members with
  | nil =>
    rw [toList_render_nil]
    exact hopen.append hclose
  | cons m members =>
    rw [toList_render, List.append_assoc]
    exact hopen.append
      ((lexed_member m).append ((Lexed.flatMap (fun m => hcomma.append (lexed_member m)) _).append hclose))

/-! ### Values -/

/-- The tokens of a member put its text under its name, where a name may stand. -/
theorem run_member {done : List (String × Json)} {name : String} (m : String × String) (ts : List Token) :
    Reading.run inner ⟨.name, [.object done name], none⟩ (memberTokens m ++ ts) =
      Reading.run inner ⟨.next, [.object (Named.put done m.1 (.str m.2)) ""], none⟩ ts := rfl

/-- By induction on the members that are left, whatever was read before. -/
theorem run_laterTokens (members : List (String × String)) (done : List (String × Json)) :
    Reading.run inner ⟨.next, [.object done ""], none⟩ (laterTokens members) =
      some (.obj (Named.putAll done (texts members))) := by
  induction members generalizing done with
  | nil => rfl
  | cons m members ih =>
    have hcomma : Reading.run inner ⟨.next, [.object done ""], none⟩ (laterTokens (m :: members)) =
        Reading.run inner ⟨.name, [.object done ""], none⟩ (memberTokens m ++ laterTokens members) := rfl
    rw [hcomma, run_member, ih]
    rfl

/-- The first name is not the one that makes an object stand for another value. -/
def Ordinary (members : List (String × String)) : Prop := (members.map (·.1)).head? ≠ some standInName

theorem run_objectTokens (h : Ordinary members) :
    Reading.start.run inner (objectTokens members) = some (.obj (Named.putAll [] (texts members))) := by
  cases members with
  | nil => rfl
  | cons m members =>
    have hname : Token.str (some m.1) ≠ .str (some standInName) := fun heq =>
      h (congrArg some (Option.some.inj (Token.str.inj heq)))
    have hfirst : Reading.start.run inner (objectTokens (m :: members)) =
        Reading.run inner ⟨.nameOrClose, [.object [] ""], none⟩ (memberTokens m ++ laterTokens members) := rfl
    have hstep : Reading.step inner ⟨.nameOrClose, [.object [] ""], none⟩ (.str (some m.1)) =
        some ⟨.colon, [.object [] m.1], none⟩ := by
      rw [Reading.step, if_neg nofun, Reading.firstName, if_neg hname]
      rfl
    have hmember : Reading.run inner ⟨.nameOrClose, [.object [] ""], none⟩ (memberTokens m ++ laterTokens members) =
        Reading.run inner ⟨.next, [.object [(m.1, .str m.2)] ""], none⟩ (laterTokens members) := by
      rw [memberTokens, List.cons_append, Reading.run, hstep]
      rfl
    rw [hfirst, hmember, run_laterTokens]
    rfl

/-- An object of texts is read as it was written. -/
theorem read?_render (hnames : (members.map (·.1)).Nodup) (h : Ordinary members) :
    read? (render (.obj (texts members))).toUTF8 = some (.obj (texts members)) := by
  have hput : Named.putAll [] (texts members) = texts members :=
    Named.putAll_of_nodup (l := []) (by rwa [List.nil_append, texts, List.map_map])
  rw [read?, readWithin, tokens_render, run_objectTokens h, hput]

end Pasteboard.Json
