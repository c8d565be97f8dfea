import Pasteboard.Proofs.Slots.Calls
import Pasteboard.Proofs.Slots.Newest
/-!
How many slots are active, and how many rows there are.

Whoever writes leaves at most as many active slots as its capacity says, whatever the capacities
before, and nothing but a write makes them more. A row is added only while all rows are active and
there is room, so the number of rows stays within the largest capacity that a call was made with.
-/

namespace Pasteboard
open Board Store

variable {b b' b₀ : Board} {s t : Store} {c : Capacity} {first : Nat} {call : SlotCall} {v : Option Int}

/-! ### One call -/

theorem filled_length {now : Int} {x : Payload} : (s.filled c now x).slots.length ≤ max s.slots.length c.size := by
  unfold filled setRow
  rw [changeRows_slots, List.length_map]
  cases ht : s.target c with
  | some r =>
    rw [claim_of_some ht]
    exact Nat.le_max_left _ _
  | none =>
    have hroom := (target_eq_none ht).2
    rw [claim_of_none ht, addRow_slots, List.length_append, List.length_singleton]
    omega

theorem retire_length {p : Row → Bool} : (s.changeRows p Row.retired).slots.length = s.slots.length :=
  List.length_map _

theorem Performed.length_le (hp : Performed c b s call v b') (ht : b'.database = .ready t) :
    t.slots.length ≤ max s.slots.length c.size := by
  cases hp with
  | insert =>
    cases ht
    rw [trimmed, retire_length]
    exact filled_length
  | rewrite =>
    cases ht
    rw [trimmed, retire_length, rewritten, logged_slots, setRow, changeRows_slots, List.length_map]
    exact Nat.le_max_left _ _
  | delete =>
    cases ht
    rw [deleted, retire_length]
    exact Nat.le_max_left _ _

/-- A write leaves at most as many active slots as its capacity says; a deletion does not make them more. -/
theorem Performed.countActive_le (hs : s.Sound) (hp : Performed c b s call v b') (ht : b'.database = .ready t) :
    ((∀ id, call ≠ .delete id) → t.countActive ≤ c.size) ∧
      (∀ id, call = .delete id → t.countActive ≤ s.countActive) := by
  cases hp with
  | insert =>
    cases ht
    refine ⟨fun _ => ?_, fun id hid => by cases hid⟩
    rw [countActive_eq]
    exact hs.filled.trimmed_length
  | rewrite =>
    cases ht
    refine ⟨fun _ => ?_, fun id hid => by cases hid⟩
    rw [countActive_eq]
    exact hs.rewritten.trimmed_length
  | @delete id =>
    cases ht
    refine ⟨fun hne => absurd rfl (hne id), fun _ _ => ?_⟩
    rw [countActive_eq, countActive_eq, hs.recent_deleted]
    exact List.length_filter_le _ _

/-! ### Runs -/

/-- The largest capacity that a call of a run is made with. -/
def largest : List (Capacity × SlotCall) → Nat
  | [] => 0
  | (c, _) :: calls => max c.size (largest calls)

theorem largest_le {n : Nat} {calls : List (Capacity × SlotCall)} (h : ∀ x ∈ calls, x.1.size ≤ n) :
    largest calls ≤ n := by
  induction calls with
  | nil => exact Nat.zero_le _
  | cons call calls ih =>
    exact Nat.max_le.mpr ⟨h call List.mem_cons_self, ih fun x hx => h x (List.mem_cons_of_mem _ hx)⟩

theorem perform_length (h : Holding first b s) (ht : Holding first ((call.perform c).on b).2 t) :
    t.slots.length ≤ max s.slots.length c.size := by
  rcases same_or_performed h.ready ht.ready with rfl | ⟨v, -, hp⟩
  · exact Nat.le_max_left _ _
  · exact hp.length_le ht.ready

theorem after_length (h : Holding first b s) {calls : List (Capacity × SlotCall)}
    (ht : Holding first (b.after calls) t) :
    t.slots.length ≤ max s.slots.length (largest calls) := by
  induction calls generalizing b s with
  | nil =>
    cases h.ready.symm.trans ht.ready
    exact Nat.le_max_left _ _
  | cons call calls ih =>
    obtain ⟨u, hu⟩ := h.perform call.1 call.2
    have hstep := perform_length h hu
    have hrest := ih hu ht
    show _ ≤ max s.slots.length (max call.1.size (largest calls))
    omega

theorem Board.Vacant.after_length (h₀ : b₀.Vacant) {calls : List (Capacity × SlotCall)}
    (hs : Holding b₀.clock.used (b₀.after calls) s) : s.slots.length ≤ largest calls := by
  obtain ⟨s₀, hs₀⟩ := h₀.holding
  obtain ⟨u, hu, hslots, -⟩ := h₀
  cases hs₀.ready.symm.trans hu
  simpa [hslots] using Pasteboard.after_length hs₀ hs

theorem largest_withCapacity (c : Capacity) (calls : List SlotCall) : largest (withCapacity c calls) ≤ c.size := by
  induction calls with
  | nil => exact Nat.zero_le _
  | cons call calls ih => exact Nat.max_le.mpr ⟨Nat.le_refl _, ih⟩

/-- In every run, with any capacities and any clock, the ids of the rows are one to `n` without a gap, where
`n` is at most the largest capacity so far. A new slot or a replacement leaves at most as many active slots
as the capacity of its call says; a deletion or a failure never makes them more. -/
theorem run_within_capacity (h₀ : b₀.Vacant) (calls : List (Capacity × SlotCall)) :
    (∃ s, (b₀.after calls).database = .ready s ∧ s.slots.map (·.id) = idsUpTo s.slots.length ∧
      s.slots.length ≤ largest calls) ∧
    ∀ (c : Capacity) (call : SlotCall), ∃ (answer : Except StoreError (Option Int)) (b' : Board) (m n : Nat),
      (call.perform c).on (b₀.after calls) = (answer, b') ∧
      (countActive.on (b₀.after calls)).1 = .ok m ∧ (countActive.on b').1 = .ok n ∧
      (∀ v, answer = .ok v → (∀ id, call ≠ .delete id) → n ≤ c.size) ∧
      (∀ id, call = .delete id → n ≤ m) ∧ (∀ e, answer = .error e → n ≤ m) := by
  obtain ⟨s₀, hs₀⟩ := h₀.holding
  obtain ⟨s, hs⟩ := hs₀.after calls
  refine ⟨⟨s, hs.ready, hs.sound.ids, h₀.after_length hs⟩, fun c call => ?_⟩
  · rcases perform_cases hs.ready c call with ⟨e, he | he⟩ | ⟨v, b', he, hp⟩
    · exact ⟨_, _, _, _, he, by rw [on_countActive hs.ready], by rw [on_countActive hs.ready],
        nofun, fun _ _ => Nat.le_refl _, fun _ _ => Nat.le_refl _⟩
    · exact ⟨_, _, _, _, he, by rw [on_countActive hs.ready],
        by rw [on_countActive (b := (b₀.after calls).ticked) hs.ready], nofun,
        fun _ _ => Nat.le_refl _, fun _ _ => Nat.le_refl _⟩
    · obtain ⟨t, ht⟩ := hs.performed hp
      obtain ⟨hwrite, hdelete⟩ := hp.countActive_le hs.sound ht.ready
      exact ⟨_, _, _, _, he, by rw [on_countActive hs.ready], by rw [on_countActive ht.ready],
        fun _ _ hne => hwrite hne, hdelete, nofun⟩

/-- The capacity is lowered from three to one while two slots are active and the clock stands still. -/
theorem run_within_capacity_lowered : ∃ b' n, ((SlotCall.insert (.text "c")).perform (.of 1)).on
    ((fresh ⟨fun _ => 1000, 0⟩).after [(.of 3, .insert (.text "a")), (.of 3, .insert (.text "b"))]) =
      (.ok (some 1), b') ∧ (countActive.on b').1 = .ok n ∧ n ≤ 1 := by
  obtain ⟨-, hcall⟩ := run_within_capacity (fresh_vacant ⟨fun _ => 1000, 0⟩)
    [(.of 3, .insert (.text "a")), (.of 3, .insert (.text "b"))]
  obtain ⟨answer, b', m, n, hinsert, -, hcount, hle, -⟩ := hcall (.of 1) (.insert (.text "c"))
  obtain rfl : answer = .ok (some 1) := by
    refine (congrArg Prod.fst hinsert).symm.trans ?_
    cbv
  exact ⟨b', n, hinsert, hcount, hle _ rfl fun _ hdelete => by cases hdelete⟩

end Pasteboard
