import Pasteboard.Proofs.Api.SlotQuery
import Pasteboard.Proofs.Http.Disposition
import Pasteboard.Proofs.Log.Failure
/-!
Slots that are answered with a file.

A request for a slot is refused, or answered with a record, a text or a file. Only a file has a disposition, and that
names the file as it is stored, as one to show or as one to save, whichever was asked for.
-/

namespace Pasteboard

open Api Board
open Pasteboard.Http

namespace Api

variable {params : Params} {b : Board} {e : Response}

/-! ### Refusals -/

/-- What ends a run of steps with an error is one of the steps. -/
theorem exists_of_foldlM_error {ε σ α : Type} {f : σ → α → Except ε σ} {l : List α} {q : σ} {e : ε}
    (h : l.foldlM f q = .error e) : ∃ x ∈ l, ∃ q', f q' x = .error e := by
  induction l generalizing q with
  | nil => cases h
  | cons x l ih =>
    rw [List.foldlM_cons] at h
    cases hx : f q x with
    | error e' =>
      rw [hx] at h
      cases h
      exact ⟨x, .head _, q, hx⟩
    | ok q' =>
      rw [hx] at h
      obtain ⟨y, hy, hfail⟩ := ih h
      exact ⟨y, .tail _ hy, hfail⟩

theorem disposition_of_read (h : SlotQuery.read params = .error e) : e.disposition = none := by
  obtain ⟨x, -, q, hx⟩ := exists_of_foldlM_error h
  rcases SlotQuery.take_error hx with ⟨-, hid⟩ | ⟨-, rfl⟩
  · rcases misnumbering_of_requiredId hid with rfl | rfl <;> rfl
  · rfl

theorem storeFailure_disposition (e : StoreError) : (storeFailure e).disposition = none := by
  cases e <;> rfl

/-! ### Answers -/

theorem askedRecord_same (id : Option Int) (b : Board) : ((askedRecord id).on b).2 = b := by
  cases id with
  | some id => exact ask_same ..
  | none =>
    have hsame : (latestId.on b).2 = b := ask_same ..
    rw [askedRecord, Action.on_bind]
    rcases hlatest : latestId.on b with ⟨e | latest, b'⟩ <;> rw [hlatest] at hsame <;> obtain rfl := hsame
    · rfl
    · cases latest with
      | some id => exact ask_same ..
      | none => rfl

/-- A file that is found is stored. -/
theorem exists_stored_file {id : Int} {file : Upload} (h : ((Board.getFile id).on b).1 = .ok file) :
    ∃ st, b.database = .ready st ∧ st.getFile id = .ok file := by
  by_cases hready : ∃ st, b.database = .ready st
  · obtain ⟨st, hst⟩ := hready
    rw [on_getFile hst] at h
    exact ⟨st, hst, h⟩
  · obtain ⟨e, he⟩ := on_ask_unready .slots (·.getFile id) (not_exists.mp hready)
    rw [Board.getFile, he] at h
    cases h

theorem failure_disposition (e : StoreError) (p : Prop) [Decidable p] (message : String) :
    (if p then missing message else storeFailure e).disposition = none := by
  split
  · rfl
  · exact storeFailure_disposition e

/-- A request for a slot is answered without a disposition, or with a stored file. -/
theorem getSlot_cases (params : Params) (b : Board) : ((getSlot params).answer.run b).1.disposition = none ∨
    ∃ q st id file, SlotQuery.read params = .ok q ∧ b.database = .ready st ∧ st.getFile id = .ok file ∧
      (getSlot params).answer.run b = (fileAnswer q.download file, b) := by
  unfold getSlot
  rw [run_answer, run_bind, run_of]
  cases hread : SlotQuery.read params with
  | error e => exact Or.inl (disposition_of_read hread)
  | ok q =>
    have hsame := askedRecord_same q.id b
    dsimp only
    rw [run_bind, run_act]
    rcases hasked : (askedRecord q.id).on b with ⟨e | record, b'⟩ <;> rw [hasked] at hsame <;> obtain rfl := hsame
    · exact Or.inl (failure_disposition e ..)
    dsimp only [Except.mapError]
    by_cases hjson : q.asJson = true
    · rw [if_pos hjson]
      exact Or.inl rfl
    rw [if_neg hjson]
    cases record.body with
    | text content => exact Or.inl rfl
    | file | empty =>
      have hsame : ((Board.getFile record.id).on b').2 = b' := ask_same ..
      dsimp only
      rw [run_bind, run_act]
      rcases hfound : (Board.getFile record.id).on b' with ⟨e | file, b''⟩ <;> rw [hfound] at hsame <;>
        obtain rfl := hsame
      · exact Or.inl (failure_disposition e ..)
      · obtain ⟨st, hst, hfile⟩ := exists_stored_file (congrArg Prod.fst hfound)
        exact Or.inr ⟨q, st, record.id, file, rfl, hst, hfile, rfl⟩

theorem isToken_inline : IsToken "inline".toList := isToken_of_all (by decide) (by decide)

theorem isToken_attachment : IsToken "attachment".toList := isToken_of_all (by decide) (by decide)

/-- Whatever the name of a file, the value of its disposition has the kind that it was made for and shows the name in
quotes, as a value that is read in no other way and a line that ends where it should. A request for a slot is answered
without a disposition, or with the one of a stored file: of the kind of files to save if that was asked for, else of the
kind of files to show. -/
theorem dispositions_name_the_file :
    (∀ name, ∃ shown, Names "inline" name (contentDisposition "inline" name) shown ∧
      Names "attachment" name (contentDisposition "attachment" name) shown) ∧
    ∀ params b, ((getSlot params).answer.run b).1.disposition = none ∨
      ∃ q st id file value shown, SlotQuery.read params = .ok q ∧ b.database = .ready st ∧ st.getFile id = .ok file ∧
        ((getSlot params).answer.run b).1.disposition = some value ∧
        Names (if q.download then "attachment" else "inline") file.filename value shown := by
  refine ⟨fun name => ?_, fun params b => ?_⟩
  · exact ⟨_, names_contentDisposition isToken_inline name, names_contentDisposition isToken_attachment name⟩
  rcases getSlot_cases params b with hnone | ⟨q, st, id, file, hq, hst, hfile, hanswer⟩
  · exact Or.inl hnone
  · have hkind : IsToken (if q.download then "attachment" else "inline").toList := by
      cases q.download
      · exact isToken_inline
      · exact isToken_attachment
    refine Or.inr ⟨q, st, id, file, _, _, hq, hst, hfile, ?_, names_contentDisposition hkind file.filename⟩
    rw [hanswer]
    rfl

example : contentDisposition "inline" "é\"\r\n.png" = "inline; filename=\"é___.png\"" := by decide +kernel

end Api

end Pasteboard
