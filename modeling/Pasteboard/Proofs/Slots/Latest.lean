import Pasteboard.Proofs.Slots.Capacity
/-!
Which slot is the latest right after a new one was filled.

Among slots that were filled at one reading of the clock the one with the greatest id comes first. A
new payload may take the id of a slot that was retired or overwritten, so it is the latest only if no
other slot of the same reading has a greater id.
-/

namespace Pasteboard
open Board Store

variable {b b₀ : Board} {s : Store} {c : Capacity} {now : Int} {x : Payload} {T : Set Int} {first : Nat}

/-! ### One new slot -/

theorem Store.Sound.mem_recent_filled (h : s.Sound) {r : Row} : r ∈ (s.filled c now x).recent ↔
    r = fill now x (Row.fresh (s.claim c).1) ∨ r ∈ s.recent ∧ r.id ≠ (s.claim c).1 := by
  rw [(recent_perm _).mem_iff, h.activeRows_filled.mem_iff, List.mem_cons, List.mem_filter, bne_iff_ne,
    ← (recent_perm s).mem_iff]

/-- The latest slot is the new one if and only if all others have a lower place. -/
theorem Store.Sound.latestId_filled (h : s.Sound) {n : Nat} (hn : 0 < n) :
    ((s.filled c now x).trimmed n).latestId = some (s.claim c).1 ↔
      ∀ r ∈ s.recent, r.id ≠ (s.claim c).1 → r.place < (fill now x (Row.fresh (s.claim c).1)).place := by
  have hmem : ∀ r, r ∈ (s.filled c now x).recent ↔
      r = fill now x (Row.fresh (s.claim c).1) ∨ r ∈ s.recent ∧ r.id ≠ (s.claim c).1 := fun r => h.mem_recent_filled
  have hid : (fill now x (Row.fresh (s.claim c).1)).id = (s.claim c).1 := fill_id _
  generalize fill now x (Row.fresh (s.claim c).1) = q at hmem hid ⊢
  have hnew : q ∈ (s.filled c now x).recent := (hmem q).mpr (Or.inl rfl)
  have hhead : ((s.filled c now x).trimmed n).latestId = some (s.claim c).1 ↔
      (s.filled c now x).recent.head? = some q := by
    rw [latestId_eq, h.filled.recent_trimmed, List.head?_take, if_neg (by omega), Option.map_eq_some_iff]
    constructor
    · rintro ⟨r, hr, hrid⟩
      have hr' := mem_recent.mp (List.mem_of_head? hr)
      rw [hr, h.filled.eq_of_id_eq hr'.1 (mem_recent.mp hnew).1 (hrid.trans hid.symm)]
    · exact fun hq => ⟨q, hq, hid⟩
  rw [hhead, h.filled.recent_newestFirst.head?_eq_iff hnew]
  constructor
  · intro hall r hr hne
    exact hall r ((hmem r).mpr (Or.inr ⟨hr, hne⟩)) fun he => hne (he ▸ hid)
  · intro hall r hr hne
    obtain ⟨hr, hrid⟩ := ((hmem r).mp hr).resolve_left hne
    exact hall r hr hrid

/-- The new slot comes first if and only if no other of its time has a greater id. -/
theorem Store.Sound.latestId_filled_iff (h : s.Sound) (ht : s.TimesIn T) (hT : ∀ t ∈ T, t ≤ now) {n : Nat}
    (hn : 0 < n) :
    ((s.filled c now x).trimmed n).latestId = some (s.claim c).1 ↔
      ∀ r ∈ s.recent, r.createdAt = some now → r.id ≤ (s.claim c).1 := by
  rw [h.latestId_filled hn]
  refine forall₂_congr fun r hr => ?_
  obtain ⟨t, htT, hrt⟩ := ht.rows r (mem_recent.mp hr).1
  rw [Row.place_lt_iff hrt (fill_createdAt _), fill_id, hrt, Option.some_inj]
  have := hT t htT
  show (r.id ≠ (s.claim c).1 → t < now ∨ t = now ∧ r.id < (s.claim c).1) ↔ _
  omega

/-! ### Runs -/

/-- In a run with one capacity and a clock that does not go back, a new slot is always filled. Right afterwards
it is the latest exactly if no slot listed before that was filled at the same reading has a greater id. -/
theorem latestId_insert_iff (h₀ : b₀.Vacant) (c : Capacity) (calls : List SlotCall) (x : Payload)
    (hclock : MonotoneOn b₀.clock.item (Set.Ico b₀.clock.used ((b₀.after (withCapacity c calls)).clock.used + 1))) :
    ∃ (id : Int) (b' : Board) (records : List Record),
      ((SlotCall.insert x).perform c).on (b₀.after (withCapacity c calls)) = (.ok (some id), b') ∧
      ((Board.list c.size {} (.offset 0)).on (b₀.after (withCapacity c calls))).1 = .ok records ∧
      ((Board.latestId.on b').1 = .ok (some id) ↔
        ∀ r ∈ records, r.createdAt = (b₀.after (withCapacity c calls)).now → r.id ≤ id) := by
  obtain ⟨s₀, hs₀⟩ := h₀.holding
  obtain ⟨s, hs⟩ := hs₀.after (withCapacity c calls)
  have hlength : s.recent.length ≤ c.size :=
    (recent_length_le s).trans ((h₀.after_length hs).trans (largest_withCapacity c calls))
  rw [← (after_clock hs₀ (withCapacity c calls)).1] at hclock
  generalize b₀.after (withCapacity c calls) = b at hs hclock ⊢
  refine ⟨_, _, _, on_insert hs.ready, by rw [on_list hs.ready], ?_⟩
  rw [on_latestId rfl, Except.ok.injEq, hs.sound.latestId_filled_iff hs.times (readings_le_now hclock) c.size_pos,
    list_eq, List.take_of_length_le hlength, List.forall_mem_map]
  refine forall₂_congr fun r hr => ?_
  obtain ⟨t, -, ht⟩ := hs.times.rows r (mem_recent.mp hr).1
  show (r.createdAt = some b.now → _) ↔ (r.createdAt.getD 0 = b.now → _)
  rw [ht, Option.some_inj]
  rfl

/-- Two slots share a reading of the clock, and the third is filled at a later one. -/
theorem latestId_insert_iff_later : ∃ id b', ((SlotCall.insert (.text "c")).perform (.of 2)).on
    ((fresh ⟨fun n => 1000 + n / 2, 0⟩).after (withCapacity (.of 2) [.insert (.text "a"), .insert (.text "b")])) =
      (.ok (some id), b') ∧ (Board.latestId.on b').1 = .ok (some id) := by
  have hclock : Monotone fun n : Nat => (1000 : Int) + n / 2 := fun i j h => by
    show (1000 : Int) + i / 2 ≤ 1000 + j / 2
    omega
  obtain ⟨id, b', records, hok, hlist, hlatest⟩ := latestId_insert_iff (fresh_vacant ⟨fun n => 1000 + n / 2, 0⟩) (.of 2)
    [.insert (.text "a"), .insert (.text "b")] (.text "c") (hclock.monotoneOn _)
  have hrecords : records = [⟨2, .text "b", 1000, none, 0, true⟩, ⟨1, .text "a", 1000, none, 0, true⟩] := by
    refine Except.ok.inj (hlist.symm.trans ?_)
    cbv
  have hnow : ((fresh ⟨fun n => 1000 + n / 2, 0⟩).after
      (withCapacity (.of 2) [.insert (.text "a"), .insert (.text "b")])).now = 1001 := by
    cbv
  refine ⟨id, b', hok, hlatest.mpr ?_⟩
  rw [hrecords, hnow]
  intro r hr htime
  rcases List.mem_pair.mp hr with rfl | rfl <;> cases htime

/-- While the clock stands still, a third slot takes the place of the first, and the second stays the latest. -/
theorem latest_is_not_the_new_slot : (fresh ⟨fun _ => 1000, 0⟩).Vacant ∧
    Monotone (fresh ⟨fun _ => 1000, 0⟩).clock.item ∧
    ∃ b', ((SlotCall.insert (.text "c")).perform (.of 2)).on
      ((fresh ⟨fun _ => 1000, 0⟩).after (withCapacity (.of 2) [.insert (.text "a"), .insert (.text "b")])) =
        (.ok (some 1), b') ∧ (Board.latestId.on b').1 = .ok (some 2) :=
  ⟨fresh_vacant _, monotone_const, _, Prod.ext (by cbv) rfl, by cbv⟩

end Pasteboard
