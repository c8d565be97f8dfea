import Pasteboard.Api.Router
import Pasteboard.Proofs.Access.Calls
/-!
What the handlers change.

A handler that answers a read leaves the data as it was. Every other handler changes the data once, as its last
act, so it leaves them as they were unless its answer is a success.
-/

namespace Pasteboard

open Board

/-! ### Changes of one key -/

/-- There is a key with an id. -/
def Store.HasKey (s : Store) (id : Int) : Prop := s.keys.any (·.id == id) = true

/-- A computation about the key with an id: where the key is, it succeeds and keeps the key; elsewhere it leaves the
data as it was. -/
structure AboutKey {α : Type} (id : Int) (x : Action α) : Prop where
  present : ∀ (b : Board) s, b.database = .ready s → s.HasKey id →
    ∃ a b' t, b.run x = (.ok a, b') ∧ b'.database = .ready t ∧ t.HasKey id
  absent : ∀ b : Board, (∀ s, b.database = .ready s → ¬s.HasKey id) → (b.run x).2.database = b.database

namespace AboutKey
variable {α β : Type} {id : Int} {x : Action α} {f : α → Action β}

theorem bind (hx : AboutKey id x) (hf : ∀ a, AboutKey id (f a)) : AboutKey id (x >>= f) where
  present b s hs hk := by
    obtain ⟨a, b', t, hrun, ht, hk'⟩ := hx.present b s hs hk
    rw [run_bind_of_ok hrun]
    exact (hf a).present b' t ht hk'
  absent b hb := by
    have hsame := hx.absent b hb
    rw [run_bind]
    rcases hr : b.run x with ⟨e | a, b'⟩ <;> rw [hr] at hsame
    · exact hsame
    · have hsame' := (hf a).absent b' (by rw [hsame]; exact hb)
      exact hsame'.trans hsame

/-- Taken together, the changes are carried out all or none. -/
theorem atomic (hx : AboutKey id x) : Atomic x := by
  intro b
  by_cases hk : ∃ s, b.database = .ready s ∧ s.HasKey id
  · obtain ⟨s, hs, hk⟩ := hk
    obtain ⟨a, b', -, hrun, -⟩ := hx.present b s hs hk
    exact Or.inr ⟨a, by rw [hrun]⟩
  · exact Or.inl (hx.absent b fun s hs hk' => hk ⟨s, hs, hk'⟩)

theorem change {f : ApiKey → ApiKey} (hf : ∀ k, (f k).id = k.id) : AboutKey id (change .keys (·.updateKey id f)) where
  present b s hs hk := by
    let t : Store := { s with keys := s.keys.map fun k => if k.id == id then f k else k }
    have hupdate : s.updateKey id f = .ok t := if_pos hk
    refine ⟨(), b.storing t, t, ?_, rfl, ?_⟩
    · rw [run_eq_on, on_change hs, hupdate]
    · obtain ⟨k, hmem, hid⟩ := List.any_eq_true.mp hk
      refine List.any_eq_true.mpr ⟨f k, List.mem_map.mpr ⟨k, hmem, if_pos hid⟩, ?_⟩
      rw [hf]
      exact hid
  absent b hb := by
    rw [run_eq_on]
    by_cases hready : ∃ s, b.database = .ready s
    · obtain ⟨s, hs⟩ := hready
      have hupdate : s.updateKey id f = .error .notFound := if_neg (hb s hs)
      rw [on_change hs, hupdate]
    · obtain ⟨e, he⟩ := on_ask_unready .keys (·.updateKey id f) fun s hs => hready ⟨s, hs⟩
      rw [Board.change, Action.on_bind, he]

theorem getKey : AboutKey id (getKey id) where
  present b s hs hk := by
    obtain ⟨k, hmem, hid⟩ := List.any_eq_true.mp hk
    have hfound : (s.key? id).isSome = true := List.find?_isSome.mpr ⟨k, hmem, hid⟩
    obtain ⟨key, hkey⟩ := Option.isSome_iff_exists.mp hfound
    refine ⟨key, b, s, ?_, hs, hk⟩
    rw [run_eq_on, Board.getKey, on_ask hs, Store.getKey, hkey]
  absent b _ := getKey_readonly b

end AboutKey

namespace Api
open Pasteboard.Http

/-- However many fields are changed: the key is edited that many times and then read, and stays the same key. -/
theorem changeKey_induction {Q : Action ApiKey → Prop} {id : Int} (read : Q (Board.getKey id))
    (edit : ∀ (f : ApiKey → ApiKey) (rest : Action ApiKey), (∀ k, (f k).issuance = k.issuance) → Q rest →
      Q (Board.change .keys (·.updateKey id f) >>= fun _ => rest))
    (role : Option Role) (fields : KeyFields) : Q (changeKey id role fields) := by
  obtain ⟨word, label, enabled⟩ := fields
  have henabled : Q (changeKey id none ⟨word, none, enabled⟩) := by
    cases enabled with
    | some enabled => exact edit (fun k => { k with enabled }) _ (fun _ => rfl) read
    | none => exact read
  have hlabel : Q (changeKey id none ⟨word, label, enabled⟩) := by
    cases label with
    | some label =>
      -- By `rfl` the two labels would be compared first, which runs the trimming.
      exact edit (fun k => { k with label := Text.trimmed? label }) _ (fun _ => by simp only [ApiKey.issuance]) henabled
    | none => exact henabled
  cases role with
  | some role => exact edit (fun k => { k with role := role.name }) _ (fun _ => rfl) hlabel
  | none => exact hlabel

theorem changeKey_aboutKey (id : Int) (role : Option Role) (fields : KeyFields) :
    AboutKey id (changeKey id role fields) :=
  changeKey_induction .getKey
    (fun _ _ hf hrest => .bind (.change fun k => congrArg Issuance.id (hf k)) fun _ => hrest) role fields

/-! ### Refusals -/

section
variable {s : Settings} {r : Request} {params : Params}

theorem le_failure_status (code : ErrorCode) (message : String) (details : Option Json) :
    400 ≤ (failure code message details).status := by
  show 400 ≤ code.status
  cases code <;> decide

theorem le_storeFailure_status (e : StoreError) : 400 ≤ (storeFailure e).status := by
  cases e <;> exact le_failure_status ..

theorem le_denied_status (d : Gate.Denial) : 400 ≤ (denied d).status := by
  cases d <;> exact le_failure_status ..

theorem le_status_of_readRecord {fields : List Json.Record.Field} :
    ∀ e, readRecord s r fields = .error e → 400 ≤ e.status := by
  intro e h
  unfold readRecord at h
  dsimp only at h
  split at h
  · cases h
    decide
  split at h
  · cases h
    decide
  split at h <;> cases h <;> decide

theorem le_status_of_read : ∀ e, KeyFields.read s r = .error e → 400 ≤ e.status := by
  intro e h
  unfold KeyFields.read at h
  cases hread : readRecord s r [("role", .optionalText), ("label", .optionalText), ("enabled", .optionalBool)] with
  | error e' =>
    rw [hread] at h
    cases h
    exact le_status_of_readRecord _ hread
  | ok values =>
    rw [hread] at h
    dsimp only [bind, Except.bind] at h
    split at h <;> cases h

theorem le_status_of_roleOf {raw : String} : ∀ e, roleOf raw = .error e → 400 ≤ e.status := by
  intro e h
  unfold roleOf at h
  cases hnamed : Role.named raw <;> rw [hnamed] at h <;> cases h
  exact le_storeFailure_status _

theorem le_status_of_requiredId : ∀ e, requiredId params = .error e → 400 ≤ e.status := by
  intro e h
  unfold requiredId at h
  split at h
  · cases h
    exact le_failure_status ..
  split at h
  · split at h <;> cases h
    exact le_failure_status ..
  · cases h
    exact le_failure_status ..

/-- However an update of a key is read: it ends early with an error, or the key is changed. -/
theorem updateKey_induction {Q : Handler Response → Prop}
    (known : ∀ {α : Type} {x : Except Response α} {f : α → Handler Response}, (∀ e, x = .error e → 400 ≤ e.status) →
      (∀ a, x = .ok a → Q (f a)) → Q (Handler.of x >>= f))
    (nothing : Q (throw (invalid "Nothing to update")))
    (change : ∀ id role fields, requiredId params = .ok id → KeyFields.read s r = .ok fields →
      Q (act (changeKey id role fields) >>= fun key => pure (ok (keyJson key)))) : Q (updateKey s r params) := by
  refine known le_status_of_read fun fields hfields => known le_status_of_requiredId fun id hid => ?_
  have hchange (role : Option Role) : Q (do
      if role.isNone && fields.label.isNone && fields.enabled.isNone then
        throw (invalid "Nothing to update")
      let key ← act (changeKey id role fields)
      return ok (keyJson key)) := by
    dsimp only
    by_cases hnone : (role.isNone && fields.label.isNone && fields.enabled.isNone) = true
    · rw [if_pos hnone]
      exact nothing
    · rw [if_neg hnone]
      exact change id role fields hid hfields
  cases hrole : fields.role with
  | some raw =>
    dsimp only
    rw [bind_map_left]
    exact known le_status_of_roleOf fun role _ => hchange (some role)
  | none => exact hchange none

/-- However a deletion of a key is read: it ends early with an error, or the key is deleted or disabled. -/
theorem deleteKey_induction {Q : Handler Response → Prop}
    (known : ∀ {α : Type} {x : Except Response α} {f : α → Handler Response}, (∀ e, x = .error e → 400 ≤ e.status) →
      (∀ a, x = .ok a → Q (f a)) → Q (Handler.of x >>= f))
    (delete : ∀ id, requiredId params = .ok id → Q (act (Board.deleteKey id) >>= fun _ => pure (.bare 204)))
    (disable : ∀ id, requiredId params = .ok id → Q (act (Board.setEnabled id false) >>= fun _ => pure (.bare 204))) :
    Q (deleteKey params) := by
  refine known le_status_of_requiredId fun id hid => ?_
  by_cases hhard : (params.lookup "hard").any Text.isTruthy = true
  · dsimp only
    rw [if_pos hhard]
    exact delete id hid
  · dsimp only
    rw [if_neg hhard]
    exact disable id hid

end

/-! ### Answers to reads -/

section
variable {α : Type} {a : Action α} {onFailure : StoreError → Response} {s : Settings} {r : Request} {params : Params}

theorem act_readonly (h : Readonly a) : Readonly (act a onFailure) := h.adapt _

theorem act_atomic (h : Atomic a) : Atomic (act a onFailure) := h.adapt _

theorem askedRecord_readonly (id : Option Int) : Readonly (askedRecord id) := by
  cases id with
  | some id => exact getSlot_readonly
  | none =>
    refine Readonly.bind latestId_readonly fun latest => ?_
    cases latest with
    | some id => exact getSlot_readonly
    | none => exact .throw _

theorem getSlot_readonly : Readonly (getSlot params) := by
  refine Readonly.bind (.known _) fun q => Readonly.bind (act_readonly (askedRecord_readonly _)) fun record => ?_
  by_cases hjson : q.asJson = true
  · rw [if_pos hjson]
    exact .pure _
  rw [if_neg hjson]
  cases record.body with
  | text content => exact .pure _
  | file | empty => exact Readonly.bind (act_readonly getFile_readonly) fun _ => .pure _

theorem found_readonly (q : SearchQuery) : Readonly (found s q) := by
  unfold found
  cases q.text with
  | some text => exact Readonly.bind search_readonly fun _ => .pure _
  | none => exact Readonly.bind list_readonly fun _ => Readonly.bind count_readonly fun _ => .pure _

theorem search_readonly : Readonly (search s params) :=
  Readonly.bind (.known _) fun q => Readonly.bind (act_readonly (found_readonly q)) fun _ => .pure _

theorem searchByBody_readonly : Readonly (searchByBody s r params) :=
  Readonly.bind (.known _) fun _ => search_readonly

theorem health_readonly {uptime : Nat} : Readonly (health s uptime) :=
  Readonly.bind (act_readonly hasIndex_readonly) fun _ =>
    Readonly.bind (act_readonly countActive_readonly) fun _ => .pure _

theorem overview_readonly : Readonly overview :=
  Readonly.bind (act_readonly keys_readonly) fun _ => Readonly.bind (act_readonly rules_readonly) fun _ =>
    Readonly.bind (act_readonly rules_readonly) fun _ => .pure _

theorem listSlots_readonly : Readonly (listSlots s params) :=
  Readonly.bind (.known _) fun _ => Readonly.bind (.known _) fun _ =>
    Readonly.bind (act_readonly list_readonly) fun _ => Readonly.bind (act_readonly count_readonly) fun _ => .pure _

end

/-! ### Answers to changes -/

/-- A handler that leaves the data as it was unless its answer is a success. -/
def AllOrNothing (h : Handler Response) : Prop :=
  ∀ b : Board, (b.run h).2.database = b.database ∨ ∃ response, (b.run h).1 = .ok response ∧ response.status < 400

namespace AllOrNothing
variable {α : Type} {x : Handler α} {f : α → Handler Response} {h : Handler Response}

theorem of_readonly (hh : Readonly h) : AllOrNothing h := fun b => Or.inl (hh b)

theorem bind (hx : Readonly x) (hf : ∀ a, AllOrNothing (f a)) : AllOrNothing (x >>= f) := by
  intro b
  have hb := hx b
  rw [run_bind]
  rcases hr : b.run x with ⟨e | a, b'⟩ <;> rw [hr] at hb
  · exact Or.inl hb
  · exact (hf a b').imp_left fun h => h.trans hb

theorem of_known {y : Except Response α} (hf : ∀ a, y = .ok a → AllOrNothing (f a)) :
    AllOrNothing (Handler.of y >>= f) := by
  cases y with
  | error e => exact .of_readonly (.throw e)
  | ok a => exact hf a rfl

/-- A change, and an answer that reports its success. -/
theorem report (hx : Atomic x) {answer : α → Response} (hstatus : ∀ a, (answer a).status < 400) :
    AllOrNothing (x >>= fun a => pure (answer a)) := by
  intro b
  rw [run_bind]
  rcases hr : b.run x with ⟨e | a, b'⟩
  · have hb := hx b
    rw [hr] at hb
    exact Or.inl (hb.resolve_right (by rintro ⟨a, ha⟩; cases ha))
  · exact Or.inr ⟨_, rfl, hstatus a⟩

end AllOrNothing

@[simp] theorem success_status (status : Nat) (data : Json) (about : Option Json) :
    (success status data about).status = status := rfl

@[simp] theorem ok_status (data : Json) : (ok data).status = 200 := rfl

@[simp] theorem created_status (id : Int) : (created id).status = 201 := rfl

@[simp] theorem written_status (id : Int) : (written id).status = 200 := rfl

@[simp] theorem bare_status (status : Nat) : (Response.bare status).status = status := rfl

section
variable {s : Settings} {r : Request} {params : Params} {actor : Actor}

theorem postSlot_allOrNothing : AllOrNothing (postSlot s r params) :=
  .bind (.known _) fun _ => .bind (.known _) fun _ => .report (act_atomic allocate_atomic) (by simp)

theorem putSlot_allOrNothing : AllOrNothing (putSlot s r params actor) :=
  .bind (.known _) fun _ => .bind (.known _) fun _ => .bind (.known _) fun _ =>
    .report (act_atomic (replace_atomic _)) (by simp)

theorem patchSlot_allOrNothing : AllOrNothing (patchSlot s r params actor) := by
  refine .bind (.known _) fun id => .bind (.known _) fun body => ?_
  cases body with
  | json body => exact .bind (.known _) fun _ => .report (act_atomic (replace_atomic _)) (by simp)
  | form f => exact .bind (.known _) fun _ => .report (act_atomic (replace_atomic _)) (by simp)

theorem deleteSlot_allOrNothing : AllOrNothing (deleteSlot params) :=
  .bind (.known _) fun _ => .report (act_atomic (change_atomic _)) (by simp)

theorem restoreSlot_allOrNothing : AllOrNothing (restoreSlot s params actor) :=
  .bind (.known _) fun _ => .report (act_atomic (replace_atomic _)) (by simp)

theorem createKey_allOrNothing : AllOrNothing (createKey s r) := by
  unfold createKey
  dsimp only
  cases ((KeyFields.read s r).toOption.getD {}).role with
  | some raw => exact .bind (.known _) fun _ => .report (act_atomic issueKey_atomic) (by simp)
  | none => exact .bind (.pure _) fun _ => .report (act_atomic issueKey_atomic) (by simp)

theorem updateKey_allOrNothing : AllOrNothing (updateKey s r params) :=
  updateKey_induction (fun _ hf => .of_known hf) (.of_readonly (.throw _)) fun _ _ _ _ _ =>
    .report (act_atomic (changeKey_aboutKey _ _ _).atomic) (by simp)

theorem deleteKey_allOrNothing : AllOrNothing (deleteKey params) :=
  deleteKey_induction (fun _ hf => .of_known hf) (fun _ _ => .report (act_atomic (change_atomic _)) (by simp))
    fun _ _ => .report (act_atomic (change_atomic _)) (by simp)

theorem addRule_allOrNothing : AllOrNothing (addRule s r) :=
  .bind (.known _) fun _ => .bind (.known _) fun _ => .report (act_atomic addRule_atomic) (by simp)

theorem removeRule_allOrNothing : AllOrNothing (removeRule params) := by
  unfold removeRule
  dsimp only
  cases params.lookup "list" with
  | some raw =>
    exact .bind (.known _) fun _ => .bind (.known _) fun _ => .report (act_atomic (change_atomic _)) (by simp)
  | none => exact .of_readonly (.throw _)

end

/-! ### Every handler -/

section
variable {s : Settings} {route : Route} {r : Request} {visitor : Gate.Visitor} {h : Handler Response}

/-- What a read reaches leaves the data as it was; everything else changes them as a whole or not at all. -/
theorem handler?_cases (hh : handler? s route r visitor = some h) :
    Readonly h ∨ (route ≠ .health ∧ Gate.isRead r.method route.path = false ∧ AllOrNothing h) := by
  unfold handler? at hh
  dsimp only at hh
  generalize hm : (if (r.method == "HEAD") = true then "GET" else r.method) = method at hh
  have hmethod (hne : method ≠ "GET") : r.method = method := by
    by_cases hhead : (r.method == "HEAD") = true
    · rw [if_pos hhead] at hm
      exact absurd hm.symm hne
    · rwa [if_neg hhead] at hm
  -- A change answers a method that is never a read, at a path that is not that of searches.
  split at hh <;> cases hh
  · exact Or.inl getSlot_readonly
  · exact Or.inr ⟨by decide, by rw [hmethod (by decide)]; rfl, postSlot_allOrNothing⟩
  · exact Or.inr ⟨by decide, by rw [hmethod (by decide)]; rfl, putSlot_allOrNothing⟩
  · exact Or.inr ⟨by decide, by rw [hmethod (by decide)]; rfl, patchSlot_allOrNothing⟩
  · exact Or.inr ⟨by decide, by rw [hmethod (by decide)]; rfl, deleteSlot_allOrNothing⟩
  · exact Or.inl search_readonly
  · exact Or.inl searchByBody_readonly
  · exact Or.inr ⟨by decide, by rw [hmethod (by decide)]; rfl, restoreSlot_allOrNothing⟩
  · exact Or.inl health_readonly
  · exact Or.inl overview_readonly
  · exact Or.inl listSlots_readonly
  · exact Or.inr ⟨by decide, by rw [hmethod (by decide)]; rfl, createKey_allOrNothing⟩
  · exact Or.inr ⟨by decide, by rw [hmethod (by decide)]; rfl, updateKey_allOrNothing⟩
  · exact Or.inr ⟨by decide, by rw [hmethod (by decide)]; rfl, deleteKey_allOrNothing⟩
  · exact Or.inr ⟨by decide, by rw [hmethod (by decide)]; rfl, addRule_allOrNothing⟩
  · exact Or.inr ⟨by decide, by rw [hmethod (by decide)]; rfl, removeRule_allOrNothing⟩

end

end Api

end Pasteboard
