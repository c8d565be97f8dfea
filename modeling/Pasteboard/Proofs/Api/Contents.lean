import Pasteboard.Proofs.Api.Deeds
import Pasteboard.Proofs.Api.Disguise
import Pasteboard.Proofs.Board.Reachable
import Pasteboard.Proofs.Log.Entries
/-!
What slots hold that were filled by requests.

The store takes any payload, so it is the handlers that keep payloads within the limits, each in its own way: a new
slot and a full replacement are checked as a whole, a patch only in the fields that it has, and a restoration not at
all. So the invariant covers the slots, of which a patch keeps the other fields, and the texts in the log, of which a
restoration takes one.
-/

namespace Pasteboard
open Api Board Store
open Pasteboard.Http

/-! ### What fits -/

/-- A payload that a request may store: within the limits, and an image or a sound if it is a file. -/
def Payload.Fits (s : Settings) : Payload → Prop
  | .text content => content.utf8ByteSize ≤ s.limits.textBytes
  | .file f => f.data.size ≤ s.limits.fileBytes ∧ isAllowedMime f.mime = true

/-- A replacement whose payload fits, as far as it is given. -/
def Rewrite.Fits (s : Settings) : Rewrite → Prop
  | .update x => x.Fits s
  | .patchText content => ∀ c ∈ content, c.utf8ByteSize ≤ s.limits.textBytes
  | .patchFile patch =>
    (∀ data ∈ patch.data, data.size ≤ s.limits.fileBytes) ∧ ∀ mime ∈ patch.mime, isAllowedMime mime = true
  | .restore => True

/-- A call whose payload fits, as far as it is given. -/
def SlotCall.Fits (s : Settings) : SlotCall → Prop
  | .insert x => x.Fits s
  | .rewrite _ how _ => how.Fits s
  | .delete _ => True

/-- No slot has a payload that does not fit, and the log keeps no text that does not fit. -/
structure Store.Fits (s : Settings) (st : Store) : Prop where
  sound : st.Sound
  slots : ∀ id x, st.payload? id = some x → x.Fits s
  saved : ∀ e ∈ st.log, ∀ content, e.contentBefore = some content → content.utf8ByteSize ≤ s.limits.textBytes

variable {s : Settings} {st t : Store} {x : Payload} {r : Request} {params : Params} {b b' : Board} {c : Capacity}
  {call : SlotCall} {v : Option Int} {id : Int}

theorem checkText_eq_ok {content : String} :
    checkText s content = .ok () ↔ content.utf8ByteSize ≤ s.limits.textBytes := by
  unfold checkText
  split <;> simp <;> omega

theorem checkData_eq_ok {data : ByteArray} : checkData s data = .ok () ↔ data.size ≤ s.limits.fileBytes := by
  unfold checkData
  split <;> simp <;> omega

theorem checkMime_eq_ok {mime : String} : checkMime mime = .ok () ↔ isAllowedMime mime = true := by
  unfold checkMime
  split <;> simp_all

theorem bind_eq_ok {ε α β : Type} {y : Except ε α} {f : α → Except ε β} {a : β} :
    (y >>= f) = .ok a ↔ ∃ z, y = .ok z ∧ f z = .ok a := by
  cases y with
  | error e => simp [bind, Except.bind]
  | ok z => simp [bind, Except.bind]

theorem map_eq_ok {ε α β : Type} {y : Except ε α} {f : α → β} {a : β} :
    y.map f = .ok a ↔ ∃ z, y = .ok z ∧ f z = a := by
  cases y with
  | error e => simp [Except.map]
  | ok z => simp [Except.map]

/-! ### What is read off a request -/

theorem requiredText_fits {body : Json} {content : String} (h : requiredText s body = .ok content) :
    content.utf8ByteSize ≤ s.limits.textBytes := by
  unfold requiredText at h
  split at h
  · cases h
  · obtain ⟨⟨⟩, hcheck, rfl⟩ := map_eq_ok.mp h
    exact checkText_eq_ok.mp hcheck

theorem requiredUpload_fits {form : UploadForm} {f : Upload} (h : requiredUpload s params form = .ok f) :
    (Payload.file f).Fits s := by
  unfold requiredUpload at h
  split at h
  · cases h
  · obtain ⟨⟨⟩, hmime, h⟩ := bind_eq_ok.mp h
    obtain ⟨⟨⟩, hdata, h⟩ := bind_eq_ok.mp h
    cases h
    exact ⟨checkData_eq_ok.mp hdata, checkMime_eq_ok.mp hmime⟩

theorem payloadOf_fits {body : WriteBody} (h : payloadOf s params body = .ok x) : x.Fits s := by
  cases body with
  | json body =>
    obtain ⟨content, hcontent, rfl⟩ := map_eq_ok.mp h
    exact requiredText_fits hcontent
  | form form =>
    obtain ⟨f, hf, rfl⟩ := map_eq_ok.mp h
    exact requiredUpload_fits hf

theorem patchedText_fits {body : Json} {content : Option String} (h : patchedText s body = .ok content) :
    ∀ c ∈ content, c.utf8ByteSize ≤ s.limits.textBytes := by
  intro c hc
  unfold patchedText at h
  split at h
  case h_1 | h_2 =>
    cases h
    cases hc
  case h_3 text _ =>
    obtain ⟨⟨⟩, hcheck, rfl⟩ := map_eq_ok.mp h
    cases hc
    exact checkText_eq_ok.mp hcheck
  case h_4 => cases h

theorem patchedFields_fits {form : UploadForm} {patch : FilePatch} (h : patchedFields s params form = .ok patch) :
    (Rewrite.patchFile patch).Fits s := by
  unfold patchedFields at h
  dsimp only at h
  cases hdata : form.data with
  | none =>
    rw [hdata] at h
    cases hmime : form.word? params "mime" with
    | none =>
      rw [hmime] at h
      cases h
      exact ⟨nofun, nofun⟩
    | some mime =>
      rw [hmime] at h
      obtain ⟨⟨⟩, hcheck, h⟩ := bind_eq_ok.mp h
      cases h
      exact ⟨nofun, by simpa using checkMime_eq_ok.mp hcheck⟩
  | some data =>
    rw [hdata] at h
    obtain ⟨⟨⟩, hsize, h⟩ := bind_eq_ok.mp h
    cases hmime : form.word? params "mime" with
    | none =>
      rw [hmime] at h
      cases h
      exact ⟨by simpa using checkData_eq_ok.mp hsize, nofun⟩
    | some mime =>
      rw [hmime] at h
      obtain ⟨⟨⟩, hcheck, h⟩ := bind_eq_ok.mp h
      cases h
      exact ⟨by simpa using checkData_eq_ok.mp hsize, by simpa using checkMime_eq_ok.mp hcheck⟩

theorem Api.Asks.fits {actor : Actor} {route : Route} {method : String} {c : Capacity} {call : SlotCall}
    (h : Asks s r actor route method (.slots c call)) : call.Fits s := by
  cases h with
  | insert hx | update hx => exact payloadOf_fits hx
  | patchText hcontent => exact patchedText_fits hcontent
  | patchFile hpatch => exact patchedFields_fits hpatch
  | delete | restore => trivial

/-! ### What is kept -/

/-- What a replacement writes fits if what it is given fits, and what is there and what is saved. -/
theorem Rewrite.Fits.payload {how : Rewrite} (h : how.Fits s) {present : Option Payload} {saved : Option String}
    (hpresent : ∀ x ∈ present, x.Fits s) (hsaved : ∀ content ∈ saved, content.utf8ByteSize ≤ s.limits.textBytes)
    (hx : how.payload? present saved = some x) : x.Fits s := by
  cases how with
  | update y =>
    cases hx
    exact h
  | patchText content =>
    rcases present with _ | ⟨old⟩ | ⟨old⟩ <;> cases hx
    cases content with
    | none => exact hpresent _ rfl
    | some content => exact h content rfl
  | patchFile patch =>
    rcases present with _ | ⟨old⟩ | ⟨old⟩ <;> cases hx
    obtain ⟨hdata, hmime⟩ := h
    obtain ⟨hsize, hallowed⟩ : (Payload.file old).Fits s := hpresent _ rfl
    obtain ⟨filename, mime, data⟩ := patch
    refine ⟨?_, ?_⟩
    · cases data with
      | none => exact hsize
      | some data => exact hdata data rfl
    · cases mime with
      | none => exact hallowed
      | some mime => exact hmime mime rfl
  | restore =>
    obtain ⟨content, rfl, rfl⟩ := Option.map_eq_some_iff.mp hx
    exact hsaved content rfl

namespace Store.Fits

theorem of_slots (h : st.Fits s) (hslots : t.slots = st.slots)
    (hlog : ∀ e ∈ t.log, ∃ d ∈ st.log, e.contentBefore = d.contentBefore) : t.Fits s where
  sound := h.sound.of_slots hslots
  slots := fun id x hx => h.slots id x (by rwa [Store.payload?, row?, hslots] at hx)
  saved := fun e he content hcontent => by
    obtain ⟨d, hd, hsame⟩ := hlog e he
    exact h.saved d hd content (hsame ▸ hcontent)

theorem snapshot (h : st.Fits s) {content : String} (hsaved : st.snapshot? id = some content) :
    content.utf8ByteSize ≤ s.limits.textBytes := by
  obtain ⟨e, he, -, hcontent⟩ := mem_of_snapshot? hsaved
  exact h.saved e he content hcontent

theorem given (h : st.Fits s) (hcall : call.Fits s) (hx : call.given st id v = some x) : x.Fits s := by
  cases call with
  | insert y =>
    rw [SlotCall.given] at hx
    split at hx
    · cases hx
      exact hcall
    · exact h.slots id x hx
  | rewrite i how actor =>
    rw [SlotCall.given] at hx
    split at hx
    · exact Rewrite.Fits.payload hcall (fun x hx => h.slots id x hx) (fun content => h.snapshot) hx
    · exact h.slots id x hx
  | delete i =>
    rw [SlotCall.given] at hx
    split at hx
    · cases hx
    · exact h.slots id x hx

theorem performed (h : st.Fits s) (hcall : call.Fits s) (hp : Performed c b st call v b')
    (ht : b'.database = .ready t) : t.Fits s where
  sound := hp.sound h.sound ht
  slots := fun id x hx => by
    rcases hp.payload? ht id with hnone | hgiven
    · rw [hnone] at hx
      cases hx
    · exact h.given hcall (hgiven.symm.trans hx)
  saved := fun e he content hcontent => by
    rcases hp.log ht with ⟨id, how, actor, before, y, -, hplan, hlog⟩ | ⟨-, hlog⟩ <;> rw [hlog] at he
    · rcases List.mem_append.mp he with he | he
      · exact h.saved e he content hcontent
      · -- The new entry keeps the text that the slot had.
        obtain rfl := List.mem_singleton.mp he
        obtain ⟨-, hrow⟩ := plan_eq_ok.mp hplan
        have htext : LogEntry.textOf before = some content := hcontent
        rw [textOf_eq (h.sound.check before (row?_eq_some hrow).1)] at htext
        split at htext
        · have hold : (Payload.text content).Fits s := by
            refine h.slots id _ ((payload?_of_row hrow ‹_›).trans ?_)
            cases hbefore : before.payload with
            | text old =>
              rw [hbefore] at htext
              cases htext
              rfl
            | file old =>
              rw [hbefore] at htext
              cases htext
          exact hold
        · cases htext
    · exact h.saved e he content hcontent

theorem accessed (h : st.Fits s) (hmove : st.Accessed t) : t.Fits s := by
  refine h.of_slots hmove.slots fun e he => ?_
  cases hmove with
  | same | edited => exact ⟨e, he, rfl⟩
  | issued hissue =>
    rw [(issueKey_eq_ok hissue).2] at he
    exact ⟨e, he, rfl⟩
  | deleted hdelete =>
    rw [(deleteKey_eq_ok hdelete).2] at he
    obtain ⟨d, hd, rfl⟩ := List.mem_map.mp he
    refine ⟨d, hd, ?_⟩
    split <;> rfl
  | ruled list => cases list <;> exact ⟨e, he, rfl⟩

end Store.Fits

theorem SlotCall.Fits.moves (hcall : call.Fits s) (c : Capacity) :
    Deed.Moves (fun st t => st.Fits s → t.Fits s) (.slots c call) := by
  intro b h
  rw [Deed.on]
  by_cases hready : ∃ st, b.database = .ready st
  · obtain ⟨st, hst⟩ := hready
    rw [store_eq hst] at h
    rcases perform_cases hst c call with ⟨e, he | he⟩ | ⟨v, b', he, hp⟩ <;> rw [he]
    · rwa [store_eq hst]
    · rwa [store_eq (b := b.ticked) hst]
    · obtain ⟨t, ht⟩ := hp.ready
      rw [store_eq ht]
      exact h.performed hcall hp ht
  · obtain ⟨e, b', he, hsame, -⟩ := perform_unready (not_exists.mp hready) c call
    rwa [he, store_congr hsame]

/-- A request keeps what fits. -/
theorem serve_fits (h : b.store.Fits s) (r : Request) : (b.serve s r).2.store.Fits s := by
  refine serve_moves (R := fun st t => st.Fits s → t.Fits s) (fun _ h => h) (fun _ _ _ h h' hfits => h' (h hfits))
    (fun huse h => ?_) (fun route _ visitor deed hasks => ?_) h
  · exact h.of_slots huse.slots fun e he => ⟨e, huse.log ▸ he, rfl⟩
  · cases deed with
    | slots c call => exact hasks.fits.moves c
    | access call => exact fun b h => h.accessed (call.accessed b)

theorem Store.Fits.of_empty (hslots : st.slots = []) (hlog : st.log = []) : st.Fits s where
  sound := Sound.empty.of_slots hslots
  slots := fun id x hx => by
    rw [Store.payload?, row?, hslots] at hx
    cases hx
  saved := fun e he => by
    rw [hlog] at he
    cases he

/-- The board after requests, all with the same settings. -/
def Board.served (b : Board) (s : Settings) (requests : List Request) : Board :=
  requests.foldl (fun b r => (b.serve s r).2) b

theorem served_fits (h : b.store.Fits s) (requests : List Request) : (b.served s requests).store.Fits s := by
  induction requests generalizing b with
  | nil => exact h
  | cons r requests ih => exact ih (serve_fits h r)

theorem isAllowedMime_iff {mime : String} : isAllowedMime mime = true ↔
    "image/".toList <+: (Text.keyword mime).toList ∨ "audio/".toList <+: (Text.keyword mime).toList := by
  simp only [isAllowedMime, Text.startsWith, Bool.or_eq_true, List.isPrefixOf_iff_prefix]

/-- Whatever requests are made, with whatever settings, to a board without slots: every active text has at most as many
bytes as the settings allow, and so has every text in the log; every active file has at most as many bytes as they
allow, and its media type begins with `image/` or `audio/` once it is trimmed and in ASCII lower case. -/
theorem requests_store_what_fits {b : Board} (hslots : b.store.slots = []) (hlog : b.store.log = []) (s : Settings)
    (requests : List Request) :
    (∀ r ∈ (b.served s requests).store.slots, r.isActive = true →
      (r.isFile = false → ∃ content, r.content = some content ∧ content.utf8ByteSize ≤ s.limits.textBytes) ∧
      (r.isFile = true → ∃ mime data, r.mime = some mime ∧ r.blob = some data ∧ data.size ≤ s.limits.fileBytes ∧
        ("image/".toList <+: (Text.keyword mime).toList ∨ "audio/".toList <+: (Text.keyword mime).toList))) ∧
    ∀ e ∈ (b.served s requests).store.log, ∀ content, e.contentBefore = some content →
      content.utf8ByteSize ≤ s.limits.textBytes := by
  have hfits := served_fits (s := s) (.of_empty hslots hlog) requests
  refine ⟨fun r hr hact => ?_, hfits.saved⟩
  have hpayload := hfits.slots r.id _ (payload?_of_row (hfits.sound.row?_of_mem hr) hact)
  rcases Row.check_cases (hfits.sound.check r hr) with ⟨hinactive, -⟩ | ⟨content, -, hfile, hcontent, -⟩ |
      ⟨filename, mime, data, -, hfile, -, hname, hmime, hblob⟩
  · rw [hinactive] at hact
    cases hact
  · have htext : r.payload = .text content := by simp [Row.payload, hfile, hcontent]
    rw [htext] at hpayload
    exact ⟨fun _ => ⟨content, hcontent, hpayload⟩, fun h => absurd (hfile.symm.trans h) Bool.false_ne_true⟩
  · have hupload : r.payload = .file ⟨filename, mime, data⟩ := by simp [Row.payload, hfile, hname, hmime, hblob]
    rw [hupload] at hpayload
    obtain ⟨hsize, hallowed⟩ := hpayload
    refine ⟨fun h => absurd (h.symm.trans hfile) Bool.false_ne_true, fun _ => ?_⟩
    exact ⟨mime, data, hmime, hblob, hsize, isAllowedMime_iff.mp hallowed⟩

/-- Settings with small limits and without authentication. -/
def narrowSettings : Settings := { plainSettings with limits := ⟨2, 1, 2, []⟩, noAuth := true }

/-- A request about a slot, with a body of a content type. -/
def requestFor (method path query kind body : String) : Request where
  method := method
  target := ⟨path, some query⟩
  headers := [Header.of "content-type" kind]
  body := body.toUTF8
  peer := .v4 (.ofOctets 203 0 113 9)

/-- A file is stored and gets another media type. -/
def fileEdits : List Request :=
  [requestFor "POST" "/" "" "multipart/form-data; boundary=b"
    "--b\r\nContent-Disposition: form-data; name=\"file\"; filename=\"f\"\r\nContent-Type: image/png\r\n\r\nx\r\n--b--\r\n",
    requestFor "PATCH" "/" "id=1&mime=Audio/OGG" "multipart/form-data; boundary=b" "--b--\r\n"]

/-- A text takes its place, is not replaced by one that is too long, is patched, and is restored. -/
def textEdits : List Request :=
  [requestFor "PUT" "/" "id=1" "application/json" "\x7b\"content\":\"ab\"\x7d",
    requestFor "PUT" "/" "id=1" "application/json" "\x7b\"content\":\"abc\"\x7d",
    requestFor "PATCH" "/" "id=1" "application/json" "\x7b\"content\":\"c\"\x7d",
    requestFor "POST" "/restore" "id=1" "" ""]

/-- After the first edits there is a sound of one byte, after all of them the restored text. -/
theorem requests_store_what_fits_edited :
    (∃ r, ((Board.fresh counting).served narrowSettings fileEdits).store.slots = [r] ∧ r.mime = some "Audio/OGG" ∧
      ∃ data, r.blob = some data ∧ data.size ≤ 1) ∧
    ∃ r, ((Board.fresh counting).served narrowSettings (fileEdits ++ textEdits)).store.slots = [r] ∧
      r.content = some "ab" ∧ ∃ content, r.content = some content ∧ content.utf8ByteSize ≤ 2 := by
  have hfile : ((Board.fresh counting).served narrowSettings fileEdits).store.slots.map
      (fun r => (r.isActive, r.isFile, r.mime)) = [(true, true, some "Audio/OGG")] := by decide +kernel
  have htext : ((Board.fresh counting).served narrowSettings (fileEdits ++ textEdits)).store.slots.map
      (fun r => (r.isActive, r.isFile, r.content)) = [(true, false, some "ab")] := by decide +kernel
  obtain ⟨r, hr, hcolumns⟩ := List.map_eq_singleton_iff.mp hfile
  obtain ⟨q, hq, hcolumns'⟩ := List.map_eq_singleton_iff.mp htext
  simp only [Prod.mk.injEq] at hcolumns hcolumns'
  obtain ⟨mime, data, hmime, hblob, hsize, -⟩ := ((requests_store_what_fits (b := Board.fresh counting) rfl rfl
    narrowSettings fileEdits).1 r (hr ▸ List.mem_singleton_self r) hcolumns.1).2 hcolumns.2.1
  have hfits := ((requests_store_what_fits (b := Board.fresh counting) rfl rfl narrowSettings
    (fileEdits ++ textEdits)).1 q (hq ▸ List.mem_singleton_self q) hcolumns'.1).1 hcolumns'.2.1
  exact ⟨⟨r, hr, hcolumns.2.2, data, hblob, hsize⟩, q, hq, hcolumns'.2.2, hfits⟩

end Pasteboard
