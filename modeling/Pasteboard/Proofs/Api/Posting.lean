import Pasteboard.Proofs.Api.Answers
import Pasteboard.Proofs.Api.Disguise
import Pasteboard.Proofs.Json.Texts
import Pasteboard.Proofs.Slots.Calls
/-!
How large a posted text may be.

Two limits stand in the way of a text: one on its bytes, and one on the bytes of the body that it is written into, which
makes room for the largest payload and a mebibyte more. Escapes can take more room than that.
-/

namespace Pasteboard

open Api Board
open Pasteboard.Http

namespace Api

/-- A request to store a text, written as JSON on one line. -/
structure PostsText (s : Settings) (r : Request) (text : String) : Prop where
  posts : r.method = "POST"
  atRoot : routeOf? s r = some .root
  kind : contentKind r = "application/json"
  body : r.body = (Json.render (.obj (Json.texts [("content", text)]))).toUTF8

/-- The bytes of a text in JSON on one line, with `content` as its name. -/
def postedSize (text : String) : Nat := 14 + (text.toList.map Json.writtenSize).sum

/-- A text is too large, by itself or as it is written. -/
def TooLarge (s : Settings) (text : String) : Prop :=
  s.limits.textBytes < text.utf8ByteSize ∨ s.bodyLimit < postedSize text

variable {s : Settings} {r : Request} {text : String} {visitor : Gate.Visitor} {b b' : Board} {st : Store}

theorem PostsText.handler (h : PostsText s r text) (visitor : Gate.Visitor) :
    handler? s .root (told s r) visitor = some (postSlot s (told s r) (told s r).target.params) := by
  have hmethod : (told s r).method = "POST" := h.posts
  unfold handler?
  rw [hmethod]
  rfl

theorem PostsText.size (h : PostsText s r text) : r.body.size = postedSize text := by
  have hname : ("content".toList.map Json.writtenSize).sum = 7 := by decide
  rw [h.body, Json.size_render, hname, postedSize]

theorem PostsText.read (h : PostsText s r text) : readWriteBody s (told s r) =
    if s.bodyLimit < postedSize text then .error (failure .size "Text too large")
    else .ok (.json (.obj (Json.texts [("content", text)]))) := by
  have hkind : contentKind (told s r) = "application/json" := h.kind
  have hjson : Text.startsWith "application/json" "application/json" = true := rfl
  have hread : Json.read? (told s r).body = some (.obj (Json.texts [("content", text)])) := by
    show Json.read? r.body = _
    rw [h.body]
    exact Json.read?_render (by simp) (by simp [Json.Ordinary, Json.standInName])
  have hsize : isOversized s (told s r) = decide (s.bodyLimit < postedSize text) := by
    rw [← h.size]
    rfl
  rw [readWriteBody, hkind, if_pos hjson, hsize, hread]
  by_cases hlarge : s.bodyLimit < postedSize text
  · rw [if_pos (decide_eq_true hlarge), if_pos hlarge]
  · rw [if_neg (by simpa using hlarge), if_neg hlarge]

theorem requiredText_texts (text : String) : requiredText s (.obj (Json.texts [("content", text)])) =
    if s.limits.textBytes < text.utf8ByteSize then .error (failure .size "Text too large") else .ok text := by
  have hmember : (Json.member? "content" (.obj (Json.texts [("content", text)]))).bind Json.text? = some text := rfl
  rw [requiredText, hmember]
  dsimp only
  rw [checkText]
  split <;> rfl

/-- What is done with a text that is not refused. -/
def storeText (s : Settings) (text : String) : Handler Response := do
  let id ← act (Board.allocate (capacityOf s) (.text text))
  return created id

theorem run_postSlot (h : PostsText s r text) (params : Params) (b : Board) :
    (TooLarge s text → b.run (postSlot s (told s r) params) = (.error (failure .size "Text too large"), b)) ∧
    (¬TooLarge s text → b.run (postSlot s (told s r) params) = b.run (storeText s text)) := by
  unfold postSlot
  rw [run_bind, run_of, h.read]
  by_cases hbody : s.bodyLimit < postedSize text
  · rw [if_pos hbody]
    exact ⟨fun _ => rfl, fun hfits => absurd (Or.inr hbody) hfits⟩
  rw [if_neg hbody]
  dsimp only
  rw [run_bind, run_of, payloadOf, requiredText_texts]
  by_cases htext : s.limits.textBytes < text.utf8ByteSize
  · rw [if_pos htext]
    exact ⟨fun _ => rfl, fun hfits => absurd (Or.inl htext) hfits⟩
  rw [if_neg htext]
  exact ⟨fun hlarge => absurd hlarge (not_or.mpr ⟨htext, hbody⟩), fun _ => rfl⟩

/-- Where there are tables, a text is always stored. -/
theorem run_storeText (hst : b.database = .ready st) (s : Settings) (text : String) :
    ∃ id b', b.run (storeText s text) = (.ok (created id), b') := by
  rw [storeText, run_bind, run_act, on_allocate hst, Store.allocate_eq]
  exact ⟨_, _, rfl⟩

/-- No failure of the database is blamed on a size. -/
theorem storeFailure_status_ne (e : StoreError) : (storeFailure e).status ≠ 413 := by
  have hcode {code : ErrorCode} (h : code.status ≠ 413) (message : String) (details : Option Json) :
      (failure code message details).status ≠ 413 := h
  cases e <;> exact hcode (by decide) _ _

theorem storeText_status_ne (s : Settings) (text : String) (b : Board) :
    ((storeText s text).answer.run b).1.status ≠ 413 := by
  rw [run_answer, storeText, run_bind, run_act]
  rcases (Board.allocate (capacityOf s) (.text text)).on b with ⟨e | id, b'⟩
  · exact storeFailure_status_ne e
  · exact fun hstatus : 201 = 413 => by cases hstatus

/-- Data that are ready stay so while a visitor is let in. -/
theorem ready_of_entered {route : Route} (h : b.run (entered s route (told s r)) = (.ok visitor, b'))
    (hst : b.database = .ready st) : ∃ t, b'.database = .ready t := by
  rcases (entered_of_ok h).noted with hsame | ⟨_, _, _, t, _, -, -, ht, -⟩
  · exact ⟨st, hsame.trans hst⟩
  · exact ⟨t, ht⟩

/-- A visitor who posts a text is refused it for a size just if the text has more bytes than a text may have, or more as
it is written than a body may have; otherwise a slot is created with it, where there are tables. -/
theorem posted_text_is_refused_iff (h : PostsText s r text)
    (hentered : b.run (entered s .root (told s r)) = (.ok visitor, b')) :
    ((b.serve s r).1.status = 413 ↔
      s.limits.textBytes < text.utf8ByteSize ∨ s.bodyLimit < 14 + (text.toList.map Json.writtenSize).sum) ∧
    ((b.serve s r).1.status = 413 → (b.serve s r).1 = failure .size "Text too large") ∧
    ((b.serve s r).1.status ≠ 413 → ∀ st, b.database = .ready st → ∃ id, (b.serve s r).1 = created id) := by
  obtain ⟨hrefused, hstored⟩ := run_postSlot h (told s r).target.params b'
  have hserve := serve_handled h.atRoot (not_head (Or.inr h.posts)) hentered (h.handler visitor)
  have hlarge : TooLarge s text → (b.serve s r).1 = failure .size "Text too large" := by
    intro hlarge
    rw [hserve, run_answer, hrefused hlarge]
  have hfits : ¬TooLarge s text → b.serve s r = (storeText s text).answer.run b' := by
    intro hfits
    rw [hserve, run_answer, run_answer, hstored hfits]
  have hiff : (b.serve s r).1.status = 413 ↔ TooLarge s text := by
    refine ⟨fun hstatus => ?_, fun h => congrArg Response.status (hlarge h)⟩
    by_contra h
    rw [hfits h] at hstatus
    exact storeText_status_ne s text b' hstatus
  refine ⟨hiff, fun hstatus => hlarge (hiff.mp hstatus), fun hstatus st hst => ?_⟩
  obtain ⟨t, ht⟩ := ready_of_entered hentered hst
  obtain ⟨id, b'', hrun⟩ := run_storeText ht s text
  refine ⟨id, ?_⟩
  rw [hfits (mt hiff.mpr hstatus), run_answer, hrun]

/-- A request to store a text, from elsewhere and without a key. -/
def postText (text : String) : Request where
  method := "POST"
  target := ⟨"/", none⟩
  headers := [Header.of "content-type" "application/json"]
  body := (Json.render (.obj (Json.texts [("content", text)]))).toUTF8
  peer := .v4 (.ofOctets 203 0 113 9)

theorem postText_posts (hbase : s.basePath = "/") (text : String) : PostsText s (postText text) text where
  posts := rfl
  atRoot := by
    have hroot : BasePath.below? "/" "/" = some "/" := rfl
    have hbelow : BasePath.below? s.basePath (postText text).target.path = some "/" := by rw [hbase]; exact hroot
    rw [routeOf?, hbelow]
    rfl
  kind := by
    show Text.lower ((headerText? [Header.of "content-type" "application/json"] "content-type").getD "") = _
    decide +kernel
  body := rfl

/-- Variables that limit texts more loosely than files. -/
def textVariables : List (String × String) :=
  [("KARING_MAX_FILE_BYTES", "1"), ("KARING_MAX_TEXT_BYTES", "209713"), ("KARING_NO_AUTH", "1")]

/-- The settings that these variables give. -/
def textSettings : Settings := { plainSettings with limits := ⟨100, 1, 209713, []⟩, noAuth := true }

theorem read_textVariables : Settings.read (fun name => textVariables.lookup name) = .ok textSettings := rfl

theorem entered_freely (r : Request) :
    ∃ visitor, b.run (entered textSettings .root (told textSettings r)) = (.ok visitor, b) := by
  rw [run_entered (by decide), run_admitted_of_free rfl]
  exact ⟨_, rfl⟩

/-- A text of so many characters that are written with four digits. -/
def controls (n : Nat) : String := String.ofList (List.replicate n '\x01')

theorem utf8ByteSize_controls (n : Nat) : (controls n).utf8ByteSize = n := by
  rw [controls, String.utf8ByteSize_ofList]
  induction n with
  | zero => rfl
  | succ n ih =>
    rw [List.replicate_succ, String.utf8Len_cons, ih]
    rfl

theorem sum_writtenSize_controls (n : Nat) : ((controls n).toList.map Json.writtenSize).sum = n * 6 := by
  have hone : Json.writtenSize '\x01' = 6 := by decide
  rw [controls, String.toList_ofList, List.map_replicate, List.sum_replicate, hone, smul_eq_mul]

/-- A body that is just small enough, and a text that is too large. -/
theorem posted_text_is_refused_iff_of_controls :
    (∃ id, ((Board.fresh counting).serve textSettings (postText (controls 209712))).1 = created id) ∧
    ((Board.fresh counting).serve textSettings (postText (controls 209714))).1 = failure .size "Text too large" := by
  obtain ⟨st, hst, -⟩ := fresh_vacant counting
  obtain ⟨_, hsmall⟩ := entered_freely (b := Board.fresh counting) (postText (controls 209712))
  obtain ⟨_, hlarge⟩ := entered_freely (b := Board.fresh counting) (postText (controls 209714))
  have hbytes : textSettings.limits.textBytes = 209713 := rfl
  have hbody : textSettings.bodyLimit = 1258289 := rfl
  obtain ⟨hiff, -, hcreated⟩ := posted_text_is_refused_iff (postText_posts rfl (controls 209712)) hsmall
  obtain ⟨hiff', hrefused, -⟩ := posted_text_is_refused_iff (postText_posts rfl (controls 209714)) hlarge
  refine ⟨hcreated (fun hstatus => absurd (hiff.mp hstatus) ?_) st hst, hrefused (hiff'.mpr (Or.inl ?_))⟩
  · rw [utf8ByteSize_controls, sum_writtenSize_controls, hbytes, hbody]
    decide
  · rw [utf8ByteSize_controls, hbytes]
    decide

/-- A text that is as large as it may be is refused for its escapes. -/
theorem escaped_text_is_refused : Settings.read (fun name => textVariables.lookup name) = .ok textSettings ∧
    PostsText textSettings (postText (controls 209713)) (controls 209713) ∧
    (∃ visitor, (Board.fresh counting).run
      (entered textSettings .root (told textSettings (postText (controls 209713)))) =
      (.ok visitor, Board.fresh counting)) ∧
    (controls 209713).utf8ByteSize ≤ textSettings.limits.textBytes ∧
    ((Board.fresh counting).serve textSettings (postText (controls 209713))).1 = failure .size "Text too large" := by
  have hposts := postText_posts (s := textSettings) rfl (controls 209713)
  obtain ⟨visitor, hentered⟩ := entered_freely (b := Board.fresh counting) (postText (controls 209713))
  have hbytes : textSettings.limits.textBytes = 209713 := rfl
  have hsize : (controls 209713).utf8ByteSize ≤ textSettings.limits.textBytes := by rw [utf8ByteSize_controls, hbytes]
  refine ⟨read_textVariables, hposts, ⟨visitor, hentered⟩, hsize, ?_⟩
  have hbody : textSettings.bodyLimit < postedSize (controls 209713) := by
    have hlimit : textSettings.bodyLimit = 1258289 := rfl
    rw [postedSize, sum_writtenSize_controls, hlimit]
    decide
  rw [serve_handled hposts.atRoot (not_head (Or.inr rfl)) hentered (hposts.handler visitor), run_answer,
    (run_postSlot hposts _ _).1 (Or.inr hbody)]

end Api

end Pasteboard
