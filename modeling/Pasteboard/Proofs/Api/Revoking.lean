import Pasteboard.Proofs.Access.Tended
import Pasteboard.Proofs.Api.Deeds
/-!
Requests that enable, disable or delete keys.

Every early answer is an error, so a request that is answered with a success has done what it asks for: afterwards the
key that it disables or deletes is not enabled. A request enables no key but the one that it asks to enable, or issues.
-/

namespace Pasteboard
open Api Board Store
open Pasteboard.Http

/-- A computation after which, unless it fails, the data has a property. -/
def Leaves {ε α : Type} (P : Store → Prop) (x : ExceptT ε (StateM Board) α) : Prop :=
  ∀ (b : Board) a b', b.run x = (.ok a, b') → P b'.store

namespace Leaves
variable {ε ε' α β : Type} {P : Store → Prop} {x : ExceptT ε (StateM Board) α} {f : α → ExceptT ε (StateM Board) β}

theorem of_always (h : ∀ b : Board, P (b.run x).2.store) : Leaves P x := by
  intro b a b' hrun
  have hb := h b
  rwa [hrun] at hb

theorem bind (hf : ∀ a, Leaves P (f a)) : Leaves P (x >>= f) := by
  intro b c b'' hrun
  rw [run_bind] at hrun
  rcases hr : b.run x with ⟨e | a, b'⟩ <;> rw [hr] at hrun
  · cases hrun
  · exact hf a b' c b'' hrun

theorem throw {e : ε} : Leaves P (throw e : ExceptT ε (StateM Board) α) := fun _ _ _ hrun => by cases hrun

/-- What is asked afterwards does not matter. -/
theorem asked (hx : Leaves P x) (hf : ∀ a, Readonly (f a)) : Leaves P (x >>= f) := by
  intro b c b'' hrun
  rw [run_bind] at hrun
  rcases hr : b.run x with ⟨e | a, b'⟩ <;> rw [hr] at hrun
  · cases hrun
  · have hsame := hf a b'
    have hlast : b'.run (f a) = (.ok c, b'') := hrun
    rw [hlast] at hsame
    rw [store_congr hsame]
    exact hx b a b' hr

theorem of_known {r : Except ε α} (hf : ∀ a, r = .ok a → Leaves P (f a)) :
    Leaves P ((ExceptT.mk (Pure.pure r) : ExceptT ε (StateM Board) α) >>= f) := by
  cases r with
  | error e => exact .throw
  | ok a => exact hf a rfl

theorem adapt (hx : Leaves P x) (g : ε → ε') : Leaves P (ExceptT.adapt g x) := by
  intro b a b' hrun
  rw [run_adapt] at hrun
  rcases hr : b.run x with ⟨e | a, b'⟩ <;> rw [hr] at hrun <;> cases hrun
  exact hx b _ _ hr

end Leaves

namespace Api

/-! ### Early answers -/

/-- A handler whose early answers are errors. -/
def Refuses {α : Type} (x : Handler α) : Prop := ∀ (b : Board) e b', b.run x = (.error e, b') → 400 ≤ e.status

namespace Refuses
variable {α β : Type} {x : Handler α} {f : α → Handler β}

theorem pure (a : α) : Refuses (Pure.pure a : Handler α) := fun _ _ _ hrun => by cases hrun

theorem throw {e : Response} (he : 400 ≤ e.status) : Refuses (throw e : Handler α) := fun _ _ _ hrun => by
  cases hrun
  exact he

theorem of_known {y : Except Response α} (hy : ∀ e, y = .error e → 400 ≤ e.status)
    (hf : ∀ a, y = .ok a → Refuses (f a)) : Refuses (Handler.of y >>= f) := by
  cases y with
  | error e => exact .throw (hy e rfl)
  | ok a => exact hf a rfl

theorem act {a : Action α} {onFailure : StoreError → Response} (h : ∀ e, 400 ≤ (onFailure e).status) :
    Refuses (act a onFailure) := by
  intro b e b' hrun
  rw [run_act] at hrun
  rcases hr : a.on b with ⟨fault | a, b'⟩ <;> rw [hr] at hrun <;> cases hrun
  exact h fault

theorem bind (hx : Refuses x) (hf : ∀ a, Refuses (f a)) : Refuses (x >>= f) := by
  intro b e b'' hrun
  rw [run_bind] at hrun
  rcases hr : b.run x with ⟨e | a, b'⟩ <;> rw [hr] at hrun
  · cases hrun
    exact hx b _ _ hr
  · exact hf a b' e b'' hrun

end Refuses

variable {s : Settings} {r : Request} {params : Params} {route : Route} {b : Board} {id : Int} {enabled : Bool}

theorem admitted_refuses : Refuses (admitted s r) := by
  refine .bind (.act fun _ => le_failure_status ..) fun decision => ?_
  cases decision with
  | pass visitor => exact .pure _
  | deny denial => exact .throw (le_denied_status denial)

theorem checkAdmin_refuses : Refuses (checkAdmin r) := by
  refine .bind (.act fun _ => le_failure_status ..) fun denial => ?_
  cases denial with
  | none => exact .pure _
  | some denial => exact .throw (le_denied_status denial)

theorem entered_refuses : Refuses (entered s route r) := by
  unfold entered
  by_cases hhealth : route = .health
  · rw [if_pos hhealth]
    exact .pure _
  · rw [if_neg hhealth]
    refine .bind admitted_refuses fun visitor => ?_
    by_cases hadmin : route.isAdmin = true
    · dsimp only
      rw [if_pos hadmin]
      exact .bind checkAdmin_refuses fun _ => .pure _
    · dsimp only
      rw [if_neg hadmin]
      exact .pure _

theorem updateKey_refuses : Refuses (updateKey s r params) :=
  updateKey_induction .of_known (.throw (le_failure_status ..)) fun _ _ _ _ _ =>
    .bind (.act le_storeFailure_status) fun _ => .pure _

theorem deleteKey_refuses : Refuses (deleteKey params) :=
  deleteKey_induction .of_known (fun _ _ => .bind (.act le_storeFailure_status) fun _ => .pure _)
    fun _ _ => .bind (.act le_storeFailure_status) fun _ => .pure _

/-! ### What is disabled or deleted -/

theorem changeKey_leaves {role : Option Role} {fields : KeyFields} (henabled : fields.enabled = some false) :
    Leaves (fun t => t.Shut id) (changeKey id role fields) := by
  obtain ⟨word, label, enabled⟩ := fields
  obtain rfl : enabled = some false := henabled
  -- The state is set last, after the role and the label.
  have hdisabled : Leaves (fun t => t.Shut id) (changeKey id none ⟨word, none, some false⟩) :=
    .asked (.of_always setEnabled_shuts) fun _ => getKey_readonly
  have hlabelled : Leaves (fun t => t.Shut id) (changeKey id none ⟨word, label, some false⟩) := by
    cases label with
    | some label => exact .bind fun _ => hdisabled
    | none => exact hdisabled
  cases role with
  | some role => exact .bind fun _ => hlabelled
  | none => exact hlabelled

theorem updateKey_leaves {fields : KeyFields} (hid : requiredId params = .ok id)
    (hfields : KeyFields.read s r = .ok fields) (henabled : fields.enabled = some false) :
    Leaves (fun t => t.Shut id) (updateKey s r params) := by
  refine updateKey_induction (fun _ hf => .of_known hf) .throw fun id' role fields' hid' hfields' => ?_
  cases hid.symm.trans hid'
  cases hfields.symm.trans hfields'
  exact .asked ((changeKey_leaves henabled).adapt _) fun _ => .pure _

theorem deleteKey_leaves (hid : requiredId params = .ok id) : Leaves (fun t => t.Shut id) (deleteKey params) := by
  refine deleteKey_induction (fun _ hf => .of_known hf) (fun id' hid' => ?_) fun id' hid' => ?_ <;>
    cases hid.symm.trans hid'
  · have hdeleted : Leaves (fun t => t.Shut id) (Board.deleteKey id) := .of_always deleteKey_shuts
    exact .asked (hdeleted.adapt _) fun _ => .pure _
  · have hdisabled : Leaves (fun t => t.Shut id) (Board.setEnabled id false) := .of_always setEnabled_shuts
    exact .asked (hdisabled.adapt _) fun _ => .pure _

/-! ### Requests -/

/-- A request for the keys, by a method and with the id of a key, is answered with a success. -/
structure Achieves (s : Settings) (r : Request) (b : Board) (method : String) (id : Int) : Prop where
  route : routeOf? s r = some .keys
  byMethod : r.method = method
  named : requiredId r.target.params = .ok id
  success : (b.serve s r).1.status < 400

/-- A request enables or disables the key with an id. -/
def Switches (s : Settings) (r : Request) (b : Board) (id : Int) (enabled : Bool) : Prop :=
  Achieves s r b "PATCH" id ∧ ∃ fields, KeyFields.read s r = .ok fields ∧ fields.enabled = some enabled

theorem Achieves.shuts {method : String} (h : Achieves s r b method id)
    (hhandler : ∀ visitor x, handler? s .keys (told s r) visitor = some x →
      Refuses x ∧ Leaves (fun t => t.Shut id) x) :
    (b.serve s r).2.store.Shut id := by
  have hserved := serve_served s r b
  have hsuccess := h.success
  generalize (b.serve s r).1.status = status, (b.serve s r).2 = last at hserved hsuccess ⊢
  cases hserved with
  | unknown => exact absurd hsuccess (by decide)
  | refused _ refused => exact absurd hsuccess (Nat.not_lt.mpr (entered_refuses _ _ _ refused))
  | noMethod => exact absurd hsuccess (by decide)
  | handled hroute _ hh hrun =>
    cases hroute.symm.trans h.route
    obtain ⟨hrefuses, hleaves⟩ := hhandler _ _ hh
    -- A success is no early answer, so the handler ran to its end.
    rcases hrun with hrun | hrun
    · exact hleaves _ _ _ hrun
    · exact absurd hsuccess (Nat.not_lt.mpr (hrefuses _ _ _ hrun))

theorem Switches.shuts (h : Switches s r b id false) : (b.serve s r).2.store.Shut id := by
  obtain ⟨h, fields, hfields, henabled⟩ := h
  refine h.shuts fun visitor x hx => ?_
  have hmethod : (told s r).method = "PATCH" := h.byMethod
  have hupdate : handler? s .keys (told s r) visitor = some (updateKey s (told s r) r.target.params) := by
    unfold handler?
    rw [hmethod]
    rfl
  cases hupdate.symm.trans hx
  exact ⟨updateKey_refuses, updateKey_leaves h.named hfields henabled⟩

theorem Achieves.deletes (h : Achieves s r b "DELETE" id) : (b.serve s r).2.store.Shut id := by
  refine h.shuts fun visitor x hx => ?_
  have hmethod : (told s r).method = "DELETE" := h.byMethod
  have hdelete : handler? s .keys (told s r) visitor = some (deleteKey r.target.params) := by
    unfold handler?
    rw [hmethod]
    rfl
  cases hdelete.symm.trans hx
  exact ⟨deleteKey_refuses, deleteKey_leaves h.named⟩

/-! ### What is enabled -/

variable {E : Int → Prop} {issuing : Prop} {b' : Board}

theorem OnlyUseNoted.tended (h : OnlyUseNoted s r b b') : b.store.Tended E issuing b'.store := by
  rcases h with hsame | ⟨_, _, st, t, _, -, hst, ht, huse⟩
  · rw [store_congr hsame]
    exact .refl _
  · rw [store_eq hst, store_eq ht]
    exact huse.tended

/-- What a request asks for, it is said to issue or delete, and asks to enable. -/
theorem Asks.tended {actor : Actor} {deed : Deed} (hroute : routeOf? s r = some route)
    (h : Asks s (told s r) actor route r.method deed)
    (hE : ∀ id, routeOf? s r = some .keys → r.method = "PATCH" → requiredId r.target.params = .ok id →
      (∃ fields, KeyFields.read s r = .ok fields ∧ fields.enabled = some true) → E id) :
    deed.Moves (Tended E (r.method = "POST")) := by
  intro b
  cases deed with
  | slots c call => exact .of_keys (call.keys_eq c b)
  | access call =>
    -- The method fixes what is asked for: only a `POST` issues a key, and only a `PATCH` enables one.
    generalize r.method = method at h hE ⊢
    refine call.tended ?_ ?_ ?_ b
    · rintro id rfl
      cases h with
      | setEnabled hid hfields henabled => exact hE id hroute rfl hid ⟨_, hfields, henabled⟩
    · rintro role label enabled rfl
      cases h
      rfl
    · rintro id rfl
      cases h
      decide

/-- A request enables nothing but what it asks to enable or issues, and only if it is answered with a success. -/
theorem serve_tended (s : Settings) (r : Request) (b : Board) :
    b.store.Tended (fun id => Switches s r b id true) (r.method = "POST") (b.serve s r).2.store := by
  rcases serve_cases s r b with hnoted | ⟨-, -, -, -, -, -, -, hsuccess⟩
  · exact hnoted.tended
  · refine serve_moves .refl (fun _ _ _ => .trans) (fun huse => huse.tended) fun route hroute visitor deed hasks => ?_
    exact hasks.tended hroute fun id hkeys hmethod hid hfields => ⟨⟨hkeys, hmethod, hid, hsuccess⟩, hfields⟩

end Api
end Pasteboard
