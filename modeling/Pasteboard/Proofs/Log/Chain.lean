import Pasteboard.Proofs.Log.Entries
/-!
The log as a chain.

Between two replacements of a slot the slot keeps its payload, unless it is filled anew, deleted or cut
off as surplus. So what an entry says of the payload after is what the next entry for the slot says of
the payload before.
-/

namespace Pasteboard

open Board Store

variable {b b' b₀ : Board} {s t : Store} {c : Capacity} {call : SlotCall} {v : Option Int} {id : Int} {how : Rewrite}
  {actor : Actor} {x : Payload} {first : Nat} {calls : List (Capacity × SlotCall)}

/-- A call ends what a slot holds: it fills the slot with a new payload, or the slot, which was held or is
replaced by the call, is not found afterwards, as it was deleted or cut off as surplus. -/
inductive Board.Unsettles (b : Board) (c : Capacity) (call : SlotCall) (id : Int) : Prop
  | filled (ok : ((call.perform c).on b).1 = .ok (some id))
  | lost (held : (∃ x, b.Holds id x) ∨ b.Replaces c call id)
    (gone : ((getSlot id).on ((call.perform c).on b).2).1 = .error .notFound)

/-- No call of a run ends what a slot holds. -/
def Board.Undisturbed (id : Int) (b : Board) : List (Capacity × SlotCall) → Prop
  | [] => True
  | (c, call) :: calls => ¬b.Unsettles c call id ∧ ((call.perform c).on b).2.Undisturbed id calls

/-! ### One call -/

theorem Board.Holding.unheld_of_settled (h : Holding first b s) (ht : Holding first ((call.perform c).on b).2 t)
    (hsettled : ¬b.Unsettles c call id) (hnone : t.payload? id = none) :
    s.payload? id = none ∧ ¬b.Replaces c call id := by
  have hgone := (ht.sound.payload?_eq_none ht.ready).mp hnone
  refine ⟨Option.eq_none_iff_forall_ne_some.mpr fun x hx => ?_, fun hr => ?_⟩
  · exact hsettled (.lost (Or.inl ⟨x, (h.sound.holds_iff h.ready).mpr hx⟩) hgone)
  · exact hsettled (.lost (Or.inr hr) hgone)

/-- A replaced slot holds what was written, unless it was cut off as surplus. -/
theorem Board.Holding.payload_cases (h : Holding first b s)
    (hok : ((SlotCall.rewrite id how actor).perform c).on b = (.ok v, b')) (ht : Holding first b' t)
    (hx : how.payload? (s.payload? id) (s.snapshot? id) = some x) :
    t.payload? id = none ∨ t.payload? id = some x := by
  have hcases := (performed_of_ok h.ready hok).payload? ht.ready id
  rwa [SlotCall.given, if_pos rfl, hx] at hcases

theorem Board.Holding.payload_replaced (h : Holding first b s)
    (hok : ((SlotCall.rewrite id how actor).perform c).on b = (.ok v, b')) (ht : Holding first b' t)
    (hx : how.payload? (s.payload? id) (s.snapshot? id) = some x)
    (hsettled : ¬b.Unsettles c (.rewrite id how actor) id) : t.payload? id = some x := by
  refine (h.payload_cases hok ht hx).resolve_left fun hnone => ?_
  obtain ⟨-, hnot⟩ := h.unheld_of_settled (congrArg Prod.snd hok ▸ ht) hsettled hnone
  exact hnot ⟨how, actor, v, rfl, congrArg Prod.fst hok⟩

/-- A slot that is neither replaced nor unsettled holds what it held. -/
theorem Board.Holding.payload_settled (h : Holding first b s) (ht : Holding first ((call.perform c).on b).2 t)
    (hnot : ¬b.Replaces c call id) (hsettled : ¬b.Unsettles c call id) : t.payload? id = s.payload? id := by
  have hlost := h.unheld_of_settled ht hsettled
  rcases same_or_performed h.ready ht.ready with rfl | ⟨v, hok, hp⟩
  · rfl
  · rcases hp.payload? ht.ready id with hnone | hgiven
    · rw [hnone, (hlost hnone).1]
    · -- A call gives a slot what it held, unless it fills, replaces or deletes this very slot.
      cases call with
      | insert y =>
        have hne : v ≠ some id := fun hv => hsettled (.filled (hv ▸ hok))
        rw [hgiven, SlotCall.given, if_neg hne]
      | rewrite i how actor =>
        have hne : id ≠ i := fun hi => hnot ⟨how, actor, v, by rw [hi], hok⟩
        rw [hgiven, SlotCall.given, if_neg hne]
      | delete i =>
        by_cases hi : id = i
        · rw [SlotCall.given, if_pos hi] at hgiven
          rw [hgiven, (hlost hgiven).1]
        · rw [hgiven, SlotCall.given, if_neg hi]

/-! ### Runs -/

theorem Board.Replaces.unique {i : Int} (h : b.Replaces c call id) (hi : b.Replaces c call i) : id = i := by
  obtain ⟨_, _, _, rfl, -⟩ := h
  obtain ⟨_, _, _, hcall, -⟩ := hi
  cases hcall
  rfl

/-- While no entry for a slot is appended and nothing unsettles it, the slot holds what it held. -/
theorem Board.Holding.payload_kept (h : Holding first b s) (hcalm : b.Undisturbed id calls) {m : List LogEntry}
    (hlog : (b.after calls).store.log = s.log ++ m) (hm : ∀ d ∈ m, d.slotId ≠ id) :
    (b.after calls).store.payload? id = s.payload? id := by
  induction calls generalizing b s m with
  | nil => rw [Board.after, store_eq h.ready]
  | cons call calls ih =>
    obtain ⟨c, call⟩ := call
    obtain ⟨hsettled, hcalm⟩ := hcalm
    obtain ⟨t, ht⟩ := h.perform c call
    have hprefix : t.log <+: s.log ++ m := hlog ▸ ht.log_prefix calls
    obtain ⟨m', hm'⟩ := hprefix
    rcases h.log_cases c call with ⟨e, he⟩ | ⟨hnot, hsame⟩
    · obtain ⟨how, actor, v, -, hcall, hok, -⟩ := h.appended he
      have hadd := he.log h.ready ht.ready
      rw [hadd, List.append_assoc, List.append_cancel_left_eq] at hm'
      subst hm'
      have hne : ¬b.Replaces c call id := fun hid =>
        hm e List.mem_cons_self (Replaces.unique ⟨how, actor, v, hcall, hok⟩ hid)
      rw [← h.payload_settled ht hne hsettled]
      exact ih ht hcalm (by rw [hadd, List.append_assoc]; exact hlog) fun d hd => hm d (List.mem_cons_of_mem e hd)
    · rw [store_eq ht.ready] at hsame
      rw [← h.payload_settled ht (hnot id) hsettled]
      exact ih ht hcalm (by rw [hsame]; exact hlog) hm

/-- What an entry says of the payload after is what the next entry for the slot says of the payload before. -/
theorem Board.Holding.linked (h : Holding first b s) {call₁ call₂ : Capacity × SlotCall} {e₁ e₂ : LogEntry}
    {m : List LogEntry} (h₁ : b.Appends call₁ e₁) (hlog : (b.after (call₁ :: calls)).store.log = s.log ++ e₁ :: m)
    (h₂ : (b.after (call₁ :: calls)).Appends call₂ e₂) (hid : e₂.slotId = e₁.slotId)
    (hm : ∀ d ∈ m, d.slotId ≠ e₁.slotId) (hcalm : b.Undisturbed e₁.slotId (call₁ :: calls)) : e₁.after = e₂.before := by
  obtain ⟨c₁, call₁⟩ := call₁
  obtain ⟨hsettled, hcalm⟩ := hcalm
  obtain ⟨t, ht⟩ := h.perform c₁ call₁
  obtain ⟨u, hu⟩ := ht.after calls
  -- The first call writes `x`, which the slot still holds when the second call is made.
  obtain ⟨how, actor, v, x, hcall, hok, hx, hdescribes₁⟩ := h.appended h₁
  have hwritten : t.payload? e₁.slotId = some x := by
    subst hcall
    exact h.payload_replaced (Prod.ext hok rfl) ht hx hsettled
  have hrest : (((call₁.perform c₁).on b).2.after calls).store.log = t.log ++ m := by
    rw [h₁.log h.ready ht.ready, List.append_assoc]
    exact hlog
  have hkept := ht.payload_kept hcalm hrest hm
  rw [store_eq hu.ready, hwritten] at hkept
  obtain ⟨-, -, -, y, -, -, -, hdescribes₂⟩ := hu.appended h₂
  rw [hdescribes₁.after, hdescribes₂.before, hid, hkept]

/-- Two entries for a slot with none for it in between were appended by two calls of the run, and if no call from the
first to the one before the second unsettles the slot, they are linked. -/
theorem Board.Holding.consecutive (h : Holding first b s) {l m r : List LogEntry} {e₁ e₂ : LogEntry}
    (hlog : (b.after calls).store.log = l ++ e₁ :: (m ++ e₂ :: r)) (hl : s.log.length ≤ l.length)
    (hid : e₂.slotId = e₁.slotId) (hm : ∀ d ∈ m, d.slotId ≠ e₁.slotId) :
    ∃ earlier call₁ mid call₂ rest, calls = earlier ++ call₁ :: (mid ++ call₂ :: rest) ∧
      (b.after earlier).store.log = l ∧ (b.after earlier).Appends call₁ e₁ ∧
      (b.after (earlier ++ call₁ :: mid)).store.log = l ++ e₁ :: m ∧
      (b.after (earlier ++ call₁ :: mid)).Appends call₂ e₂ ∧
      ((b.after earlier).Undisturbed e₁.slotId (call₁ :: mid) → e₁.after = e₂.before) := by
  obtain ⟨earlier, call₁, later, rfl, hl₁, h₁⟩ := h.written hlog hl
  obtain ⟨s₁, hs₁⟩ := h.after earlier
  obtain ⟨t₁, ht₁⟩ := hs₁.perform call₁.1 call₁.2
  rw [store_eq hs₁.ready] at hl₁
  have hlog₁ : t₁.log = l ++ [e₁] := by rw [h₁.log hs₁.ready ht₁.ready, hl₁]
  rw [after_append] at hlog
  -- The second entry is added after the first, so the rest of the run has the call that appended it.
  have hlater : (((call₁.2.perform call₁.1).on (b.after earlier)).2.after later).store.log =
      (l ++ e₁ :: m) ++ e₂ :: r := by
    rw [List.append_assoc]
    exact hlog
  obtain ⟨mid, call₂, rest, rfl, hl₂, h₂⟩ := ht₁.written hlater (by rw [hlog₁]; simp)
  refine ⟨earlier, call₁, mid, call₂, rest, rfl, by rw [store_eq hs₁.ready, hl₁], h₁, ?_, ?_, fun hcalm => ?_⟩
  · rw [after_append]
    exact hl₂
  · rw [after_append]
    exact h₂
  · exact hs₁.linked h₁ (hl₁ ▸ hl₂) h₂ hid hm hcalm

/-- In every run, with any capacities and any clock, each replacement that succeeds appends one entry, with a new id,
that describes the payload of the slot before, or none, and the one that was written; nothing else appends, and later
calls leave every entry as it is. Two entries for a slot with none for it in between were appended by two calls of the
run. If no call from the first of them on and before the second fills the slot anew, deletes it or cuts it off, the
first says of the payload after what the second says of the payload before. -/
theorem log_is_a_chain (h₀ : b₀.Vacant) (calls : List (Capacity × SlotCall)) :
    (∀ (c : Capacity) (id : Int) (how : Rewrite) (actor : Actor) (v : Option Int) (b' : Board),
      ((SlotCall.rewrite id how actor).perform c).on (b₀.after calls) = (.ok v, b') →
      ∃ (e : LogEntry) (old : Option Payload) (x : Payload),
        b'.store.log = (b₀.after calls).store.log ++ [e] ∧ (∀ d ∈ (b₀.after calls).store.log, d.id < e.id) ∧
        (∀ y, (b₀.after calls).Holds id y ↔ old = some y) ∧
        how.payload? old ((b₀.after calls).store.snapshot? id) = some x ∧
        (b'.Holds id x ∨ ((getSlot id).on b').1 = .error .notFound) ∧ e.Describes id old x) ∧
    (∀ (c : Capacity) (call : SlotCall), (∀ id, ¬(b₀.after calls).Replaces c call id) →
      ((call.perform c).on (b₀.after calls)).2.store.log = (b₀.after calls).store.log) ∧
    (∀ later, (b₀.after calls).store.log <+: ((b₀.after calls).after later).store.log) ∧
    ∀ l e₁ m e₂ r, (b₀.after calls).store.log = l ++ e₁ :: (m ++ e₂ :: r) → e₂.slotId = e₁.slotId →
      (∀ d ∈ m, d.slotId ≠ e₁.slotId) →
      ∃ earlier call₁ mid call₂ rest, calls = earlier ++ call₁ :: (mid ++ call₂ :: rest) ∧
        (b₀.after earlier).store.log = l ∧ (b₀.after earlier).Appends call₁ e₁ ∧
        (b₀.after (earlier ++ call₁ :: mid)).store.log = l ++ e₁ :: m ∧
        (b₀.after (earlier ++ call₁ :: mid)).Appends call₂ e₂ ∧
        ((b₀.after earlier).Undisturbed e₁.slotId (call₁ :: mid) → e₁.after = e₂.before) := by
  obtain ⟨s₀, hs₀⟩ := h₀.holding
  have hempty : s₀.log = [] := by
    obtain ⟨t, ht, -, hlog⟩ := h₀
    cases hs₀.ready.symm.trans ht
    exact hlog
  obtain ⟨s, hs⟩ := hs₀.after calls
  refine ⟨fun c id how actor v b' hok => ?_, fun c call hnot => ?_, fun later => ?_, fun l e₁ m e₂ r hlog hid hm => ?_⟩
  · obtain ⟨e, x, happends, hfresh, hx, hdescribes⟩ := hs.log_replaced hok
    rw [Appends, hok] at happends
    rw [store_eq hs.ready] at happends ⊢
    obtain ⟨t, ht⟩ := hs.answered hok
    refine ⟨e, s.payload? id, x, happends, hfresh, fun y => hs.sound.holds_iff hs.ready, hx, ?_, hdescribes⟩
    rw [ht.sound.holds_iff ht.ready, ← ht.sound.payload?_eq_none ht.ready]
    exact (hs.payload_cases hok ht hx).symm
  · rw [hs.log_kept hnot, store_eq hs.ready]
  · rw [store_eq hs.ready]
    exact hs.log_prefix later
  · exact hs₀.consecutive hlog (by rw [hempty]; exact Nat.zero_le _) hid hm

/-- The only entry for a slot with the text "a" that gets the text "b". -/
theorem log_is_a_chain_of_one : ∃ b' e, ((SlotCall.rewrite 1 (.update (.text "b")) {}).perform (.of 2)).on
    ((fresh counting).after [(.of 2, .insert (.text "a"))]) = (.ok none, b') ∧ b'.store.log = [e] ∧
    e.before = Digest.of (some (.text "a")) ∧ e.after = Digest.of (some (.text "b")) := by
  obtain ⟨hreplaced, -⟩ := log_is_a_chain (fresh_vacant counting) [(.of 2, .insert (.text "a"))]
  have hs : ((fresh counting).after [(.of 2, .insert (.text "a"))]).database = .ready {
      slots := [fill 1000 (.text "a") (.fresh 1)], index := some { entries := [⟨1, some "a"⟩], faults := 0 } } := by
    cbv
  obtain ⟨e, old, x, hlog, -, hheld, hx, -, hdescribes⟩ :=
    hreplaced (.of 2) 1 (.update (.text "b")) {} none _ (on_rewrite hs)
  cases hx
  have hget : ((getSlot 1).on ((fresh counting).after [(.of 2, .insert (.text "a"))])).1 =
      .ok ⟨1, .text "a", 1000, none, 0, true⟩ := by
    cbv
  have hold : old = some (.text "a") := (hheld _).mp ⟨⟨_, hget, rfl, rfl, rfl⟩, fun _ h => by cases h⟩
  refine ⟨_, e, on_rewrite hs, ?_, hold ▸ hdescribes.before, hdescribes.after⟩
  rw [hlog, store_eq hs]
  rfl

end Pasteboard
