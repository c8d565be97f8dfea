import Pasteboard.Proofs.Api.Serving
import Pasteboard.Proofs.Log.Keys
/-!
What requests do to keys and to the log that names them.

A request does one of the four things that operations do. An entry that it appends names the key that the request
presented to the gate.
-/

namespace Pasteboard
open Api Board Store
open Pasteboard.Http

variable {s : Settings} {r : Request} {params : Params} {actor : Actor} {P : Issuance → Prop} {b b' : Board}

namespace Api

theorem act_moves {α : Type} {R : Store → Store → Prop} {a : Action α} {onFailure : StoreError → Response}
    (h : Moves R a) : Moves R (act a onFailure) := h.adapt _

/-! ### Handlers -/

/-- A handler that asks questions only. -/
theorem moved_of_readonly {h : Handler Response} (hh : Readonly h) : Moves (Moved P) h := .of_readonly .refl hh

theorem moved_of_kept {α : Type} {a : Action α} (h : Moves Kept a) : Moves (Moved P) a := h.mono fun _ _ => .kept

theorem moved_of_accessed {α : Type} {a : Action α} (h : Moves Accessed a) : Moves (Moved P) a :=
  h.mono fun _ _ => Accessed.moved

theorem kept_of_edited {id : Int} {f : ApiKey → ApiKey} (hf : ∀ k, (f k).issuance = k.issuance) :
    Moves Kept (change .keys (Store.updateKey id f)) := by
  refine .change .refl fun s t h => ?_
  unfold Store.updateKey at h
  split at h <;> cases h
  exact .of_edited (ApiKey.issuance_edited hf id)

theorem changeKey_kept (id : Int) (role : Option Role) (fields : KeyFields) : Moves Kept (changeKey id role fields) :=
  changeKey_induction (.of_readonly .refl getKey_readonly)
    (fun _ _ hf hrest => .seq (fun _ _ _ => Kept.trans) (kept_of_edited hf) fun _ => hrest) role fields

theorem postSlot_moved : Moves (Moved P) (postSlot s r params) :=
  .bind .refl (.known _) fun _ => .bind .refl (.known _) fun _ => .report (act_moves (moved_of_kept allocate_kept)) _

theorem putSlot_moved : Moves (Moved fun k => actor.keyId = some k.id) (putSlot s r params actor) :=
  .bind .refl (.known _) fun _ => .bind .refl (.known _) fun _ => .bind .refl (.known _) fun _ =>
    .report (act_moves (replace_moved _)) _

theorem patchSlot_moved : Moves (Moved fun k => actor.keyId = some k.id) (patchSlot s r params actor) := by
  refine .bind .refl (.known _) fun id => .bind .refl (.known _) fun body => ?_
  cases body with
  | json body => exact .bind .refl (.known _) fun _ => .report (act_moves (replace_moved _)) _
  | form f => exact .bind .refl (.known _) fun _ => .report (act_moves (replace_moved _)) _

theorem deleteSlot_moved : Moves (Moved P) (deleteSlot params) :=
  .bind .refl (.known _) fun _ => .report (act_moves (moved_of_kept delete_kept)) _

theorem restoreSlot_moved : Moves (Moved fun k => actor.keyId = some k.id) (restoreSlot s params actor) :=
  .bind .refl (.known _) fun _ => .report (act_moves (replace_moved _)) _

theorem createKey_moved : Moves (Moved P) (createKey s r) := by
  unfold createKey
  dsimp only
  cases ((KeyFields.read s r).toOption.getD {}).role with
  | some raw => exact .bind .refl (.known _) fun _ => .report (act_moves (moved_of_accessed issueKey_accessed)) _
  | none => exact .bind .refl (.pure _) fun _ => .report (act_moves (moved_of_accessed issueKey_accessed)) _

theorem updateKey_moved : Moves (Moved P) (updateKey s r params) :=
  updateKey_induction (fun _ hf => .of_known .refl hf) (moved_of_readonly (.throw _)) fun _ _ _ _ _ =>
    .report (act_moves (moved_of_kept (changeKey_kept _ _ _))) _

theorem deleteKey_moved : Moves (Moved P) (deleteKey params) :=
  deleteKey_induction (fun _ hf => .of_known .refl hf)
    (fun _ _ => .report (act_moves (moved_of_accessed deleteKey_accessed)) _)
    fun _ _ => .report (act_moves (moved_of_accessed setEnabled_accessed)) _

theorem addRule_moved : Moves (Moved P) (addRule s r) :=
  .bind .refl (.known _) fun _ => .bind .refl (.known _) fun _ =>
    .report (act_moves (moved_of_accessed addRule_accessed)) _

theorem removeRule_moved : Moves (Moved P) (removeRule params) := by
  unfold removeRule
  dsimp only
  cases params.lookup "list" with
  | some raw =>
    exact .bind .refl (.known _) fun _ => .bind .refl (.known _) fun _ =>
      .report (act_moves (moved_of_accessed removeRule_accessed)) _
  | none => exact moved_of_readonly (.throw _)

/-- Whatever handler runs, it makes replacements under the key of its visitor. -/
theorem handler?_moved {route : Route} {visitor : Gate.Visitor} {h : Handler Response}
    (hh : handler? s route r visitor = some h) : Moves (Moved fun k => visitor.keyId = some k.id) h := by
  show Moves (Moved fun k => (actorOf visitor).keyId = some k.id) h
  unfold handler? at hh
  dsimp only at hh
  split at hh <;> cases hh
  · exact moved_of_readonly Api.getSlot_readonly
  · exact postSlot_moved
  · exact putSlot_moved
  · exact patchSlot_moved
  · exact deleteSlot_moved
  · exact moved_of_readonly Api.search_readonly
  · exact moved_of_readonly searchByBody_readonly
  · exact restoreSlot_moved
  · exact moved_of_readonly health_readonly
  · exact moved_of_readonly overview_readonly
  · exact moved_of_readonly listSlots_readonly
  · exact createKey_moved
  · exact updateKey_moved
  · exact deleteKey_moved
  · exact addRule_moved
  · exact removeRule_moved

end Api

/-! ### Requests -/

theorem Store.SameButUse.kept {id : Int} {st t : Store} (h : st.SameButUse id t) : st.Kept t where
  issuances := h.map_keys fun _ _ _ => rfl
  log := h.log

theorem Api.OnlyUseNoted.kept (h : OnlyUseNoted s r b b') : b.store.Kept b'.store := by
  rcases h with hsame | ⟨_, _, st, t, _, -, hst, ht, huse⟩
  · rw [store_congr hsame]
    exact .refl _
  · rw [store_eq hst, store_eq ht]
    exact huse.kept

/-- A request does to keys and log what an operation does, under the key whose secret it presents. -/
theorem serve_moved (s : Settings) (r : Request) {b : Board} (hids : (b.store.issuances.map (·.id)).Nodup) :
    b.store.Moved (fun k => (callerOf s r).key = some k.secret) (b.serve s r).2.store := by
  have hserved := serve_served s r b
  generalize (b.serve s r).1.status = status, (b.serve s r).2 = last at hserved ⊢
  cases hserved with
  | unknown => exact .refl _
  | refused hroute refused => exact .kept (noted_of_error refused).kept
  | noMethod hroute entered => exact .kept entered.noted.kept
  | handled hroute entered hhandler hrun =>
    rename_i route visitor h b' response
    have hlast : (b'.run h).2 = last := by rcases hrun with hrun | hrun <;> rw [hrun]
    have hmoved := handler?_moved hhandler b'
    rw [hlast] at hmoved
    rcases handler?_cases hhandler with hread | ⟨hhealth, -⟩
    · have hsame := hread b'
      rw [hlast] at hsame
      rw [store_congr hsame]
      exact .kept entered.noted.kept
    · refine (entered.noted.kept.moved hmoved).mono fun k hk hid => ?_
      obtain ⟨after, -, hp, -⟩ := entered.gate.resolve_left fun hh => hhealth hh.1
      rw [hid] at hp
      obtain ⟨key, hkey, hkid, -, hpresented⟩ := hp.presented
      have hsame : key.issuance = k := List.inj_on_of_nodup_map hids (List.mem_map_of_mem hkey) hk hkid
      rw [hpresented, ← hsame]
      rfl

end Pasteboard
