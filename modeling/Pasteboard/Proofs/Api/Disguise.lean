import Pasteboard.Proofs.Api.Serving
import Pasteboard.Proofs.Slots.Newest
/-!
What a disguised request can do.

The gate asks for the role of a reader, and the request stores a slot. One board and one body show it for every
disguised path: the board has one key, that of a reader, and the body is an empty text.
-/

namespace Pasteboard

open Api Board
open Pasteboard.Http

/-! ### A reader's board and request -/

/-- The settings where nothing is asked for. -/
def plainSettings : Settings where
  bind := ⟨.v4 (.ofOctets 127 0 0 1), 0, 8080⟩
  logFilter := "info"
  logJson := false
  dataPath := none
  limits := ⟨100, 20971520, 10485760, []⟩
  noAuth := false
  trustProxy := false
  allowLocalhost := false
  trustedProxies := []
  basePath := "/"
  fullText := true
  fallback := true

/-- Settings with a place in the base path that is part of a segment. -/
def placedSettings : Settings := { plainSettings with basePath := "/s:t" }

/-- A key of a reader. -/
def readerKey : ApiKey := ⟨1, "reader", none, true, "read", 1000, none, none⟩

/-- A board with no slots and the key of a reader. -/
def readerBoard : Board := Gate.keyBoard readerKey

namespace Api

/-- A reader's request to store the empty text, with the path of another request. -/
def posting (r : Request) : Request where
  method := "POST"
  target := ⟨r.target.path, none⟩
  headers := [Header.of "x-api-key" "reader", Header.of "content-type" "application/json"]
  body := "\x7b\"content\":\"\"\x7d".toUTF8
  peer := r.peer

/-- A search from elsewhere, without a key. -/
def searchRequest : Request where
  method := "POST"
  target := ⟨"/search", none⟩
  headers := []
  body := ByteArray.empty
  peer := .v4 (.ofOctets 203 0 113 9)

theorem searchRequest_disguised : Disguised placedSettings searchRequest where
  posts := rfl
  atRoot := by decide +kernel
  asSearch := rfl

variable {s : Settings} {r : Request} {b : Board}

theorem Disguised.posting (h : Disguised s r) : Disguised s (posting r) := ⟨rfl, h.atRoot, h.asSearch⟩

theorem Disguised.required_eq (h : Disguised s r) : Gate.required r.method (told s r).target.path = .read := by
  rw [h.posts, h.asSearch]
  rfl

theorem callerOf_posting_key : (callerOf s (posting r)).key = some "reader" := by
  show Gate.presentedKey [Header.of "x-api-key" "reader", Header.of "content-type" "application/json"] ⟨_, none⟩ = _
  rw [Gate.presentedKey, show headerWord? _ "x-api-key" = some "reader" by decide +kernel]
  rfl

theorem readerKey_named : Role.named? readerKey.role = some .read := rfl

/-! ### Storing -/

theorem run_of {α : Type} (result : Except Response α) : b.run (Handler.of result) = (result, b) := rfl

theorem run_of_ok {α : Type} {result : Except Response α} {a : α} (h : result = .ok a) :
    b.run (Handler.of result) = (.ok a, b) := by
  rw [run_of, h]

/-- The body of such a request is accepted, whatever the limits. -/
theorem posting_payload (s : Settings) (r : Request) (params : Params) :
    ∃ body, readWriteBody s (told s (posting r)) = .ok body ∧ payloadOf s params body = .ok (.text "") := by
  have hkind : contentKind (told s (posting r)) = "application/json" := by
    show Text.lower ((headerText? [Header.of "x-api-key" "reader", Header.of "content-type" "application/json"]
      "content-type").getD "") = _
    decide +kernel
  have hsize : (told s (posting r)).body.size = 14 := by
    show "\x7b\"content\":\"\"\x7d".toUTF8.size = 14
    decide +kernel
  have hsmall : isOversized s (told s (posting r)) = false := by
    rw [isOversized, hsize, decide_eq_false_iff_not, Settings.bodyLimit]
    omega
  obtain ⟨v, hread, htext⟩ : ∃ v, Json.read? (told s (posting r)).body = some v ∧
      (v.member? "content").bind Json.text? = some "" := by
    show ∃ v, Json.read? "\x7b\"content\":\"\"\x7d".toUTF8 = some v ∧ _
    exact Option.bind_eq_some_iff.mp (by decide +kernel)
  refine ⟨.json v, ?_, ?_⟩
  · have hjson : Text.startsWith "application/json" "application/json" = true := rfl
    rw [readWriteBody, hkind, hsmall, hread]
    dsimp only
    rw [if_pos hjson, if_neg Bool.false_ne_true]
  · have hshort : checkText s "" = .ok () := if_neg (Nat.not_lt_zero _)
    rw [payloadOf, requiredText, htext]
    dsimp only
    rw [hshort]
    rfl

/-- Such a request stores a slot where it is for the root and is let in. -/
theorem posting_stores {visitor : Gate.Visitor} {b' : Board} {st : Store} (hroute : routeOf? s (posting r) = some .root)
    (hentered : b.run (entered s .root (told s (posting r))) = (.ok visitor, b')) (hst : b'.database = .ready st) :
    ∃ t, (b.serve s (posting r)).2.database = .ready t ∧ t.slots ≠ [] := by
  have hhandler : handler? s .root (told s (posting r)) visitor =
      some (postSlot s (told s (posting r)) (told s (posting r)).target.params) := rfl
  obtain ⟨body, hbody, hpayload⟩ := posting_payload s r (told s (posting r)).target.params
  have hrun : b'.run (postSlot s (told s (posting r)) (told s (posting r)).target.params) =
      (.ok (created (st.claim (capacityOf s)).1),
        b'.ticked.storing ((st.filled (capacityOf s) b'.now (.text "")).trimmed (capacityOf s).size)) := by
    rw [postSlot, run_bind_of_ok (run_of_ok hbody), run_bind_of_ok (run_of_ok hpayload), run_bind, run_act,
      on_allocate hst, Store.allocate_eq]
    rfl
  have hafter := (serve_of_route (b := b) hroute).2
  rw [run_answer_board, run_atRoute hentered hhandler, hrun] at hafter
  refine ⟨_, congrArg Board.database hafter, ?_⟩
  -- The row that was taken is still there.
  obtain ⟨row, hrow, -⟩ := Store.claim_mem (s := st) (c := capacityOf s)
  show List.map _ (List.map _ (st.claim (capacityOf s)).2.slots) ≠ []
  simpa using List.ne_nil_of_mem hrow

/-- A disguised request has a reader store a slot. -/
theorem Disguised.stores (h : Disguised s r) :
    ∃ t, (readerBoard.serve s (Api.posting r)).2.database = .ready t ∧ t.slots ≠ [] := by
  have hrank : (Gate.required (callerOf s (Api.posting r)).method (callerOf s (Api.posting r)).path).rank ≤ 0 :=
    (congrArg Role.rank h.posting.required_eq).le
  obtain ⟨id, after, he, hp⟩ := Gate.keyholder_passes s rfl callerOf_posting_key readerKey_named hrank
  have hentered : readerBoard.run (entered s .root (told s (Api.posting r))) =
      (.ok ⟨(callerOf s (Api.posting r)).clientIp, id⟩, after) := by
    rw [run_entered (by decide), run_admitted_of_pass (b := readerBoard) he]
    rfl
  rcases hp.noted with hsame | ⟨_, _, t, -, -, ht, -⟩
  · exact posting_stores h.posting.atRoot hentered (hsame.trans rfl)
  · exact posting_stores h.posting.atRoot hentered ht

theorem Disguised.changes (h : Disguised s r) :
    (readerBoard.serve s (Api.posting r)).2.database.written ≠ readerBoard.database.written := by
  obtain ⟨t, ht, hslots⟩ := h.stores
  rw [ht]
  exact fun he => hslots (congrArg Prod.fst he)

/-- The reader was not granted to write. -/
theorem reader_not_granted (c : Gate.Caller) :
    ¬∃ st, readerBoard.database = .ready st ∧ st.Grants [.write, .admin] c := by
  rintro ⟨st, hst, -, hlisted | hkeyless | ⟨secret, -, key, hmem, -, -, role, hrole, hnamed⟩⟩ <;> cases hst
  · cases hlisted
  · cases hkeyless
  · cases List.mem_singleton.mp hmem
    cases readerKey_named.symm.trans hnamed
    exact absurd hrole (by decide)

end Api

end Pasteboard
