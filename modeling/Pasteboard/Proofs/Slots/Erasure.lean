import Pasteboard.Proofs.Api.Serving
import Pasteboard.Proofs.Log.Entries
import Pasteboard.Proofs.Log.Failure
import Pasteboard.Proofs.Slots.Swapped
/-!
Payloads that are gone.

Two runs of the same calls that differ in the payload of one new slot differ in this slot while it is active and not
replaced, and nowhere else: no call on another slot picks the payload up. Once the slot is deleted, cut off as surplus
or given to another payload the two boards are the same, and nothing that is done or asked from then on tells them
apart.
-/

namespace Pasteboard
open Board Store

variable {b b' b₁ : Board} {s : Store} {c : Capacity} {call : SlotCall} {calls : List (Capacity × SlotCall)}
    {id i : Int}
  {how : Rewrite} {actor : Actor} {x y : Payload}

/-- A run in which a slot loses its payload before anything replaces it: the slot is not active, a new payload takes it,
or it loses the payload later. What follows may be anything. -/
inductive Board.Loses (id : Int) : Board → List (Capacity × SlotCall) → Prop
  | gone {b : Board} {calls : List (Capacity × SlotCall)} (h : ((getSlot id).on b).1 = .error .notFound) :
      Loses id b calls
  | taken {b : Board} {c : Capacity} {call : SlotCall} {calls : List (Capacity × SlotCall)}
      (h : ((call.perform c).on b).1 = .ok (some id)) : Loses id b ((c, call) :: calls)
  | later {b : Board} {c : Capacity} {call : SlotCall} {calls : List (Capacity × SlotCall)}
      (kept : ¬b.Replaces c call id) (rest : Loses id ((call.perform c).on b).2 calls) : Loses id b ((c, call) :: calls)

/-- A board is the same as another, or differs from it in the payload of one active slot. -/
def Board.Twin (id : Int) (y : Payload) (b b' : Board) : Prop :=
  b' = b ∨ ∃ s, b.database = .ready s ∧ b' = b.storing (s.swapped id y)

/-- Rows and index agree, whatever was done. -/
theorem Board.Reachable.indexed (h : b.Reachable) : b.store.Indexed :=
  h.keeps .empty (fun _ _ hindex hs => hs.reindexed hindex) (fun hp ht hs => hs.performed hp ht)
    fun hmove hs => ⟨hs.sound.of_slots hmove.slots, by rw [hmove.slots, hmove.index]; exact hs.index⟩

/-! ### One call -/

theorem plan_congr {t : Store} (hrow : t.row? i = s.row? i) (hlog : t.log = s.log) : how.plan i t = how.plan i s := by
  rw [plan_eq, plan_eq, Store.payload?, Store.payload?, hrow, snapshot?_congr hlog]

theorem row?_swapped : (s.swapped id y).row? i = (s.row? i).map (Row.swapped id y) := by
  have hid : (fun r : Row => r.id == i) ∘ Row.swapped id y = fun r => r.id == i := by
    funext r
    simp
  rw [row?, Store.swapped, List.find?_map, hid, row?]

theorem plan_swapped_of_ne (h : i ≠ id) : how.plan i (s.swapped id y) = how.plan i s := by
  refine plan_congr ?_ rfl
  rw [row?_swapped]
  cases hrow : s.row? i with
  | none => rfl
  | some r =>
    obtain ⟨-, rfl⟩ := row?_eq_some hrow
    rw [Option.map_some, Row.swapped_of_ne h]

/-- Whether a slot can be replaced does not depend on its payload, but for the kind. -/
theorem plan_swapped_self (id : Int) (how : Rewrite) (s : Store) (y : Payload) :
    (∃ e, how.plan id s = .error e ∧ how.plan id (s.swapped id y) = .error e) ∨
    ∃ before x before' x', how.plan id s = .ok (before, x) ∧ how.plan id (s.swapped id y) = .ok (before', x') := by
  cases how with
  | update z =>
    rw [Rewrite.plan, toReplace, toReplace, row?_swapped]
    cases s.row? id with
    | none => exact Or.inl ⟨_, rfl, rfl⟩
    | some r => exact Or.inr ⟨_, _, _, _, rfl, rfl⟩
  | patchText content =>
    rw [Rewrite.plan, toPatchText, toPatchText, row?_swapped]
    cases s.row? id with
    | none => exact Or.inl ⟨_, rfl, rfl⟩
    | some r =>
      dsimp only [Option.map_some]
      rw [Row.swapped_isActiveText]
      cases r.isActiveText with
      | false => exact Or.inl ⟨_, rfl, rfl⟩
      | true => exact Or.inr ⟨_, _, _, _, rfl, rfl⟩
  | patchFile patch =>
    rw [Rewrite.plan, toPatchFile, toPatchFile, row?_swapped]
    cases s.row? id with
    | none => exact Or.inl ⟨_, rfl, rfl⟩
    | some r =>
      dsimp only [Option.map_some]
      rw [Row.swapped_isActiveFile]
      cases r.isActiveFile with
      | false => exact Or.inl ⟨_, rfl, rfl⟩
      | true => exact Or.inr ⟨_, _, _, _, rfl, rfl⟩
  | restore =>
    rw [Rewrite.plan, toRestore, toRestore, snapshot?_congr (s := s) (t := s.swapped id y) rfl]
    cases s.snapshot? id with
    | none => exact Or.inl ⟨_, rfl, rfl⟩
    | some content =>
      dsimp only
      rw [toReplace, toReplace, row?_swapped]
      cases s.row? id with
      | none => exact Or.inl ⟨_, rfl, rfl⟩
      | some r => exact Or.inr ⟨_, _, _, _, rfl, rfl⟩

/-- A call that does not replace the slot leaves boards that differ in its payload, or that no longer differ. -/
theorem perform_swapped (hs : b.database = .ready s) (h : s.Indexed) (hkept : ¬b.Replaces c call id) (y : Payload) :
    ((call.perform c).on b).2.Twin id y ((call.perform c).on (b.storing (s.swapped id y))).2 := by
  cases call with
  | insert z =>
    rw [on_insert hs, on_insert rfl]
    by_cases hid : (s.claim c).1 = id
    · left
      show b.ticked.storing (((s.swapped id y).filled c b.now z).trimmed c.size) = _
      rw [h.swapped_filled hid]
    · right
      refine ⟨_, rfl, ?_⟩
      rw [h.filled.trimmed_swapped, h.filled_swapped hid]
      rfl
  | rewrite i how actor =>
    have hknows : (s.swapped id y).knows actor = s.knows actor := rfl
    rw [on_rewrite hs, on_rewrite rfl, hknows]
    by_cases hi : i = id
    · -- The slot itself is not replaced, so the call fails with either payload.
      subst hi
      rcases plan_swapped_self i how s y with ⟨e, he, he'⟩ | ⟨before, x, before', x', hplan, hplan'⟩
      · rw [he, he']
        exact Or.inr ⟨s, hs, rfl⟩
      · cases hk : s.knows actor with
        | true =>
          refine absurd ⟨how, actor, none, rfl, ?_⟩ hkept
          rw [on_rewrite hs, hplan]
          exact congrArg Prod.fst (if_pos hk)
        | false =>
          rw [hplan, hplan']
          exact Or.inr ⟨s, hs, rfl⟩
    · rw [plan_swapped_of_ne hi]
      cases hplan : how.plan i s with
      | error e => exact Or.inr ⟨s, hs, rfl⟩
      | ok target =>
        obtain ⟨before, x⟩ := target
        obtain ⟨-, rfl⟩ := row?_eq_some (plan_eq_ok.mp hplan).2
        cases s.knows actor with
        | true =>
          refine Or.inr ⟨_, rfl, ?_⟩
          rw [h.rewritten.trimmed_swapped, h.rewritten_swapped hi]
          rfl
        | false => exact Or.inr ⟨s, hs, rfl⟩
  | delete i =>
    have hany : (s.swapped id y).slots.any (fun r => r.id == i && r.isActive) =
        s.slots.any fun r => r.id == i && r.isActive := by
      simp [Store.swapped, Function.comp_def]
    rw [on_deleteCall hs, on_deleteCall rfl, hany]
    cases s.slots.any fun r => r.id == i && r.isActive with
    | false => exact Or.inr ⟨s, hs, rfl⟩
    | true => exact Or.inr ⟨_, rfl, congrArg b.storing h.deleted_swapped.symm⟩

/-- A new payload in the slot leaves no difference. -/
theorem perform_swapped_taken (hs : b.database = .ready s) (h : s.Indexed)
    (htaken : ((call.perform c).on b).1 = .ok (some id)) (y : Payload) :
    ((call.perform c).on (b.storing (s.swapped id y))).2 = ((call.perform c).on b).2 := by
  cases call with
  | insert z =>
    rw [on_insert hs] at htaken
    obtain rfl := Option.some.inj (Except.ok.inj htaken)
    rw [on_insert hs, on_insert rfl]
    show b.ticked.storing (((s.swapped (s.claim c).1 y).filled c b.now z).trimmed c.size) = _
    rw [h.swapped_filled rfl]
  | rewrite | delete => cases performed_of_ok hs (Prod.ext htaken rfl)

/-- Two payloads of one kind make boards that differ in the payload of the slot. -/
theorem insert_twin (hs : b.database = .ready s) (h : s.Indexed) (hkind : x.isFile = y.isFile)
    (hx : ((SlotCall.insert x).perform c).on b = (.ok (some id), b₁)) :
    ∃ b₂, ((SlotCall.insert y).perform c).on b = (.ok (some id), b₂) ∧ b₁.Twin id y b₂ := by
  rw [on_insert hs] at hx ⊢
  obtain ⟨hid, rfl⟩ := Prod.mk.inj hx
  obtain rfl := Option.some.inj (Except.ok.inj hid)
  refine ⟨_, rfl, Or.inr ⟨_, rfl, ?_⟩⟩
  have hfilled : (s.filled c b.now x).swapped (s.claim c).1 y = s.filled c b.now y := h.claim.setRow_fill_swapped hkind
  rw [h.filled.trimmed_swapped, hfilled]
  rfl

/-! ### Runs -/

/-- Once the payload is lost the two boards are the same, whatever is called. -/
theorem Board.Loses.after_eq (hlost : b.Loses id calls) (h : b.Reachable) (htwin : b.Twin id y b') :
    b'.after calls = b.after calls := by
  induction hlost generalizing b' with
  | @gone b calls hgone =>
    rcases htwin with rfl | ⟨s, hs, rfl⟩
    · rfl
    · have hindexed := store_eq hs ▸ h.indexed
      have hself : s.swapped id y = s := by
        refine hindexed.swapped_self fun r hr hid => ?_
        rw [hindexed.sound.getSlot_notFound_iff hs] at hgone
        cases hact : r.isActive with
        | false => rfl
        | true => exact absurd ⟨r, mem_recent.mpr ⟨hr, hact⟩, hid⟩ hgone
      obtain ⟨database, clock, secrets⟩ := b
      subst hs
      rw [hself]
      rfl
  | @taken b c call calls htaken =>
    rcases htwin with rfl | ⟨s, hs, rfl⟩
    · rfl
    · show ((call.perform c).on (b.storing (s.swapped id y))).2.after calls = ((call.perform c).on b).2.after calls
      rw [perform_swapped_taken hs (store_eq hs ▸ h.indexed) htaken]
  | @later b c call calls hkept _ ih =>
    rcases htwin with rfl | ⟨s, hs, rfl⟩
    · rfl
    · exact ih (h.slots c call) (perform_swapped hs (store_eq hs ▸ h.indexed) hkept y)

/-- Of two runs of the same calls from a reachable state, with the same capacities and readings of the clock, that
differ in the payload of one new slot, two texts or two files: if the slot is deleted, cut off as surplus or given to
another payload before it is replaced, then from that moment on the two boards are the same, with all rows, log entries
and entries of the index, and so every question about slots and every request is answered the same. -/
theorem lost_payload_leaves_no_trace (h : b.Reachable) (hkind : x.isFile = y.isFile)
    (hx : ((SlotCall.insert x).perform c).on b = (.ok (some id), b₁)) (hlost : b₁.Loses id calls) :
    ∃ b₂, ((SlotCall.insert y).perform c).on b = (.ok (some id), b₂) ∧ b₂.after calls = b₁.after calls ∧
      (∀ q : SlotQuestion, (q.ask.on (b₂.after calls)).1 = (q.ask.on (b₁.after calls)).1) ∧
      ∀ (settings : Settings) (r : Http.Request),
        ((b₂.after calls).serve settings r).1 = ((b₁.after calls).serve settings r).1 := by
  have hready : ∃ s, b.database = .ready s := by
    by_contra hnone
    obtain ⟨e, b', he, -⟩ := perform_unready (not_exists.mp hnone) c (.insert x)
    cases he.symm.trans hx
  obtain ⟨s, hs⟩ := hready
  obtain ⟨b₂, hy, htwin⟩ := insert_twin hs (store_eq hs ▸ h.indexed) hkind hx
  have hsame : b₂.after calls = b₁.after calls := by
    refine hlost.after_eq ?_ htwin
    have hreachable := h.slots c (.insert x)
    rwa [hx] at hreachable
  exact ⟨b₂, hy, hsame, fun q => by rw [hsame], fun settings r => by rw [hsame]⟩

/-- A patch of the wrong kind fails, a file takes the place of the oldest slot, and the other slot is replaced. -/
def evicting : List (Capacity × SlotCall) := [(.of 2, .insert (.text "c")), (.of 2, .rewrite 1 (.patchFile {}) {}),
  (.of 2, .insert (.file ⟨"f", "text/plain", ByteArray.empty⟩)), (.of 2, .rewrite 2 (.update (.text "d")) {})]

/-- Two texts are told apart until their slot is given to a file, and not afterwards. -/
theorem lost_payload_leaves_no_trace_evicted : ∃ b₁ b₂,
    ((SlotCall.insert (.text "a")).perform (.of 2)).on (fresh counting) = (.ok (some 1), b₁) ∧
    ((SlotCall.insert (.text "b")).perform (.of 2)).on (fresh counting) = (.ok (some 1), b₂) ∧
    ((getSlot 1).on b₁).1 = .ok ⟨1, .text "a", 1000, none, 0, true⟩ ∧
    ((getSlot 1).on b₂).1 = .ok ⟨1, .text "b", 1000, none, 0, true⟩ ∧
    b₁.Loses 1 evicting ∧ b₂.after evicting = b₁.after evicting := by
  have hx : (((SlotCall.insert (.text "a")).perform (.of 2)).on (fresh counting)).1 = .ok (some 1) := by cbv
  have hlost : (((SlotCall.insert (.text "a")).perform (.of 2)).on (fresh counting)).2.Loses 1 evicting := by
    refine .later ?_ (.later ?_ (.taken (by cbv)))
    · rintro ⟨_, _, _, hcall, -⟩
      cases hcall
    · rintro ⟨_, _, v, -, hok⟩
      have herror : (((SlotCall.rewrite 1 (.patchFile {}) {}).perform (.of 2)).on
          ((fresh counting).after [(.of 2, .insert (.text "a")), (.of 2, .insert (.text "c"))])).1 =
          .error (.conflict (.otherKind 1)) := by cbv
      cases herror.symm.trans hok
  obtain ⟨b₂, hy, hsame, -⟩ :=
    lost_payload_leaves_no_trace (x := .text "a") (y := .text "b") (fresh_reachable counting) rfl
    (Prod.ext hx rfl) hlost
  refine ⟨_, b₂, Prod.ext hx rfl, hy, by cbv, ?_, hlost, hsame⟩
  have hread : ((getSlot 1).on (((SlotCall.insert (.text "b")).perform (.of 2)).on (fresh counting)).2).1 =
      .ok ⟨1, .text "b", 1000, none, 0, true⟩ := by cbv
  rwa [hy] at hread

end Pasteboard
