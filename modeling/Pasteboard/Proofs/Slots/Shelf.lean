import Pasteboard.Proofs.Slots.Capacity
import Pasteboard.Proofs.Slots.Freed
import Pasteboard.Proofs.Slots.Payloads
import Pasteboard.Proofs.Slots.Snapshot
/-!
Slots as a bounded list, newest first.

With one capacity and a clock that goes forward, the rows with their times behave as a list of ids
and payloads: a new payload is put in front, a replacement stays in its place, and a deleted slot
leaves its id to be taken again, the least first. Every call has the same answer on both sides.
-/

namespace Pasteboard

/-- What is listed, newest first, the ids that are free again, how many ids were ever taken, and the text that was
overwritten last under each id. -/
structure Shelf where
  listed : List (Int × Payload) := []
  freed : List Int := []
  used : Nat := 0
  saved : Int → Option String := fun _ => none

namespace Shelf

/-- The payload that is listed under an id. -/
def lookup (id : Int) (a : Shelf) : Option Payload := a.listed.lookup id

/-- Puts a new payload in front: under the least freed id, else under the next unused one; with all `n` places taken,
under the id of the last, which is dropped. -/
def create (n : Nat) (x : Payload) (a : Shelf) : Int × Shelf :=
  if a.listed.length < n then
    match a.freed.min? with
    | some id => (id, { a with listed := (id, x) :: a.listed, freed := a.freed.filter (· != id) })
    | none => (a.used + 1, { a with listed := (a.used + 1, x) :: a.listed, used := a.used + 1 })
  else
    match a.listed.getLast? with
    | some (id, _) => (id, { a with listed := (id, x) :: a.listed.dropLast })
    | none => (0, a)

/-- Replaces what is listed under an id in its place, and saves its text; under a freed id, puts a payload in front. -/
def put (id : Int) (x : Payload) (a : Shelf) : Option Shelf :=
  match a.lookup id with
  | some old => some { a with
      listed := a.listed.map fun e => if e.1 = id then (id, x) else e
      saved := Function.update a.saved id ((LogEntry.textIn old).or (a.saved id)) }
  | none =>
    if id ∈ a.freed then some { a with listed := (id, x) :: a.listed, freed := a.freed.filter (· != id) }
    else none

/-- Makes a call on a shelf of `n` places, where the keys of some actors are known. A call that fails changes
nothing. -/
def step (n : Nat) (known : Actor → Bool) (a : Shelf) : SlotCall → Except StoreError (Option Int) × Shelf
  | .insert x => (.ok (some (a.create n x).1), (a.create n x).2)
  | .rewrite id how actor =>
    match how.payload? (a.lookup id) (a.saved id) with
    | none => (.error (.conflict (how.conflict id)), a)
    | some x =>
      match a.put id x with
      | none => (.error .notFound, a)
      | some a' => if known actor then (.ok none, a') else (.error (.database .foreignKey), a)
  | .delete id =>
    match a.lookup id with
    | some _ => (.ok none, { a with listed := a.listed.filter (·.1 != id), freed := id :: a.freed })
    | none => (.error .notFound, a)

/-- The shelf after calls. -/
def after (n : Nat) (known : Actor → Bool) (a : Shelf) : List SlotCall → Shelf
  | [] => a
  | call :: calls => (a.step n known call).2.after n known calls

/-- The answers to calls. -/
def answers (n : Nat) (known : Actor → Bool) (a : Shelf) : List SlotCall → List (Except StoreError (Option Int))
  | [] => []
  | call :: calls => (a.step n known call).1 :: (a.step n known call).2.answers n known calls

end Shelf

/-- The answers to calls, each made with a capacity of its own. -/
def Board.answers (b : Board) : List (Capacity × SlotCall) → List (Except StoreError (Option Int))
  | [] => []
  | (c, call) :: calls => ((call.perform c).on b).1 :: ((call.perform c).on b).2.answers calls

/-- A board shows what is on a shelf of `n` places: in listings, as the latest slot, and under each id. -/
structure Board.Shows (b : Board) (n : Nat) (a : Shelf) : Prop where
  fits : a.listed.length ≤ n
  distinct : (a.listed.map (·.1)).Nodup
  listing : ∀ m, n ≤ m → ∃ records, ((list m {} (.offset 0)).on b).1 = .ok records ∧
    records.map (fun r => (r.id, r.body)) = a.listed.map fun e => (e.1, e.2.body)
  latest : (latestId.on b).1 = .ok (a.listed.head?.map (·.1))
  found : ∀ id x, a.lookup id = some x → b.Holds id x
  missing : ∀ id, a.lookup id = none → ((getSlot id).on b).1 = .error .notFound

open Board Store

variable {b b₀ : Board} {s s₀ t : Store} {c : Capacity} {a : Shelf} {id now : Int} {x : Payload} {r before : Row}
  {how : Rewrite} {actor : Actor} {T : Set Int} {first : Nat}

/-- What is listed of a row. -/
def Row.entry (r : Row) : Int × Payload := (r.id, r.payload)

/-- A shelf has on it what the rows say. -/
structure Shelf.Models (a : Shelf) (s : Store) : Prop where
  listed : a.listed = s.recent.map Row.entry
  freed : ∀ id, id ∈ a.freed ↔ s.Free id
  used : a.used = s.slots.length
  saved : ∀ id, a.saved id = s.snapshot? id

/-! ### Looking up -/

theorem lookup_entries {rows : List Row} (hn : (rows.map (·.id)).Nodup) :
    (rows.map Row.entry).lookup id = some x ↔ ∃ r ∈ rows, r.id = id ∧ r.payload = x := by
  induction rows with
  | nil => simp
  | cons r rows ih =>
    obtain ⟨hnot, hn⟩ := List.nodup_cons.mp hn
    rw [List.map_cons, Row.entry, List.lookup_cons]
    by_cases hid : r.id = id
    · subst hid
      rw [beq_self_eq_true]
      constructor
      · exact fun hx => ⟨r, List.mem_cons_self, rfl, Option.some.inj hx⟩
      · rintro ⟨q, hq, hqid, rfl⟩
        rcases List.mem_cons.mp hq with rfl | hq
        · rfl
        · exact absurd (List.mem_map.mpr ⟨q, hq, hqid⟩) hnot
    · rw [beq_eq_false_iff_ne.mpr (Ne.symm hid)]
      refine (ih hn).trans ?_
      simp [hid]

theorem Shelf.Models.lookup_eq (hm : a.Models s) (h : s.Sound) : a.lookup id = s.payload? id := by
  refine Option.ext fun x => ?_
  rw [Shelf.lookup, hm.listed, lookup_entries h.recent_nodup, h.payload?_eq_some]

theorem Shelf.Models.row_of_lookup (hm : a.Models s) (h : s.Sound) (hx : a.lookup id = some x) :
    ∃ r ∈ s.recent, r.id = id ∧ r.payload = x := h.payload?_eq_some.mp (hm.lookup_eq h ▸ hx)

theorem Shelf.Models.not_listed (hm : a.Models s) (h : s.Sound) (hx : a.lookup id = none) :
    ¬∃ r ∈ s.recent, r.id = id := by
  rintro ⟨r, hr, hid⟩
  rw [hm.lookup_eq h, h.payload?_eq_some.mpr ⟨r, hr, hid, rfl⟩] at hx
  cases hx

theorem Shelf.Models.of_eq (hm : a.Models s) (hslots : t.slots = s.slots) (hlog : t.log = s.log) : a.Models t where
  listed := by rw [recent_congr hslots, hm.listed]
  freed i := by rw [hm.freed, Free, Free, hslots]
  used := by rw [hm.used, hslots]
  saved i := by rw [hm.saved, snapshot?_congr hlog]

/-! ### One call -/

/-- What a new payload does to the rows is what it does to the shelf. -/
theorem Shelf.Models.create (hm : a.Models s) (h : s.Sound) (ht : s.TimesIn T) (hT : ∀ t ∈ T, t < now) :
    (a.create c.size x).1 = (s.claim c).1 ∧ (a.create c.size x).2.Models (s.filled c now x) := by
  have hentry : (s.filled c now x).recent.map Row.entry =
      ((s.claim c).1, x) :: (s.recent.filter fun t => t.id != (s.claim c).1).map Row.entry := by
    rw [h.recent_filled fun t ht' _ => ht.place_lt hT (mem_recent.mp ht').1 (fill_createdAt _), List.map_cons,
      Row.entry, fill_id, fill_payload]
    rfl
  have hlength : (s.filled c now x).slots.length = (s.claim c).2.slots.length := List.length_map _
  have hfree : ∀ i, (s.filled c now x).Free i ↔ i ≠ (s.claim c).1 ∧ s.Free i := fun i => free_filled
  have hsaved : ∀ i, a.saved i = (s.filled c now x).snapshot? i := fun i => by
    rw [hm.saved, snapshot?_congr filled_log]
  have hlisted : a.listed.length = s.recent.length := by rw [hm.listed, List.length_map]
  have hclaimed := h.claimed (c := c)
  -- The cases of `Claimed` fix the id and the number of rows, so both have to be variables.
  generalize (s.claim c).1 = id at *
  generalize (s.claim c).2.slots.length = n at *
  unfold Shelf.create
  cases hclaimed with
  | least hroom hid hleast =>
    have hmin : a.freed.min? = some id :=
      List.min?_eq_some_iff.mpr ⟨(hm.freed id).mpr hid, fun i hi => hleast i ((hm.freed i).mp hi)⟩
    rw [filter_ne_eq_self (h.ne_of_free hid)] at hentry
    rw [if_pos (hlisted ▸ hroom), hmin]
    refine ⟨rfl, by rw [hentry, hm.listed], fun i => ?_, by rw [hlength, hm.used], hsaved⟩
    rw [List.mem_filter, bne_iff_ne, hm.freed, hfree, and_comm]
  | unused hroom hfull =>
    have hmin : a.freed.min? = none :=
      List.min?_eq_none_iff.mpr (List.eq_nil_iff_forall_not_mem.mpr fun i hi => hfull i ((hm.freed i).mp hi))
    have hnew : ∀ r ∈ s.recent, r.id ≠ s.slots.length + 1 := fun r hr => by
      have := h.id_bounds (mem_recent.mp hr).1
      omega
    rw [filter_ne_eq_self hnew] at hentry
    rw [if_pos (hlisted ▸ hroom), hmin]
    refine ⟨by rw [hm.used], by rw [hentry, hm.listed, hm.used], fun i => ?_, by rw [hlength, hm.used], hsaved⟩
    rw [hm.freed, hfree]
    exact ⟨fun hi => absurd hi (hfull i), And.right⟩
  | @oldest r hfull hlast =>
    rw [h.filter_last hlast] at hentry
    have hgetLast : a.listed.getLast? = some (r.id, r.payload) := by
      rw [hm.listed, List.getLast?_map, hlast]
      rfl
    rw [if_neg (by omega), hgetLast]
    refine ⟨rfl, by rw [hentry, hm.listed, List.map_dropLast], fun i => ?_, by rw [hlength, hm.used], hsaved⟩
    rw [hm.freed, hfree]
    exact h.free_iff_ne_and (List.mem_of_getLast? hlast)

theorem Shelf.Models.put_none (hm : a.Models s) (h : s.Sound) (hrow : s.row? id = none) : a.put id x = none := by
  have hnone := row?_eq_none.mp hrow
  have hlookup : a.lookup id = none := by
    rw [hm.lookup_eq h, Store.payload?, hrow]
    rfl
  have hfree : id ∉ a.freed := by
    rw [hm.freed]
    rintro ⟨r, hr, hid, -⟩
    exact hnone r hr hid
  rw [Shelf.put, hlookup]
  exact if_neg hfree

/-- A replacement of an active row stays in its place, and its text is saved. -/
theorem Shelf.Models.put_active (hm : a.Models s) (h : s.Sound) (hlog : ∀ e ∈ s.log, e.time < now)
    (hb : before ∈ s.recent) (actor : Actor) :
    ∃ a', a.put before.id x = some a' ∧ a'.Models (s.rewritten now before x actor) := by
  obtain ⟨hmem, hact⟩ := mem_recent.mp hb
  have hlookup : a.lookup before.id = some before.payload := by
    rw [hm.lookup_eq h, h.payload?_eq_some]
    exact ⟨before, hb, rfl, rfl⟩
  rw [Shelf.put, hlookup]
  refine ⟨_, rfl, ?_, fun i => ?_, hm.used.trans (List.length_map _).symm, fun i => ?_⟩
  · rw [h.recent_rewritten_active hb, hm.listed, List.map_map, List.map_map]
    refine List.map_congr_left fun r _ => ?_
    by_cases hid : r.id = before.id <;> simp [Row.entry, hid]
  · rw [hm.freed, free_rewritten]
    exact h.free_iff_ne_and hb
  · dsimp only
    rw [snapshot?_rewritten fun e he => (hlog e he).le, textOf_eq (h.check before hmem), Function.update_apply,
      hm.saved, hm.saved]
    by_cases hid : i = before.id <;> simp [hid, hact]

/-- A replacement of an inactive row is put in front, and no text is saved. -/
theorem Shelf.Models.put_inactive (hm : a.Models s) (h : s.Sound) (ht : s.TimesIn T) (hT : ∀ t ∈ T, t < now)
    (hb : before ∈ s.slots) (hact : before.isActive = false) (actor : Actor) :
    ∃ a', a.put before.id x = some a' ∧ a'.Models (s.rewritten now before x actor) := by
  have hfreed : before.id ∈ a.freed := (hm.freed _).mpr ⟨before, hb, rfl, hact⟩
  have hlookup : a.lookup before.id = none := by
    rw [hm.lookup_eq h, Store.payload?, h.row?_of_mem hb]
    simp [hact]
  rw [Shelf.put, hlookup]
  dsimp only
  rw [if_pos hfreed]
  refine ⟨_, rfl, ?_, fun i => ?_, hm.used.trans (List.length_map _).symm, fun i => ?_⟩
  · rw [h.recent_rewritten_inactive hb hact fun t ht' => ht.place_lt hT (mem_recent.mp ht').1 (by simp [hact]),
      hm.listed]
    simp [Row.entry]
  · rw [List.mem_filter, bne_iff_ne, hm.freed, free_rewritten, and_comm]
  · rw [snapshot?_rewritten fun e he => (hT e.time (ht.log e he)).le, textOf_eq (h.check before hb), hm.saved]
    simp [hact]

/-- What a replacement does to the rows is what it does to the shelf. -/
theorem Shelf.Models.put_some (hm : a.Models s) (h : s.Sound) (ht : s.TimesIn T) (hT : ∀ t ∈ T, t < now)
    (hb : before ∈ s.slots) (actor : Actor) :
    ∃ a', a.put before.id x = some a' ∧ a'.Models (s.rewritten now before x actor) := by
  cases hact : before.isActive with
  | true => exact hm.put_active h (fun e he => hT e.time (ht.log e he)) (mem_recent.mpr ⟨hb, hact⟩) actor
  | false => exact hm.put_inactive h ht hT hb hact actor

/-- What a deletion does to the rows is what it does to the shelf. -/
theorem Shelf.Models.remove (hm : a.Models s) (h : s.Sound) (hr : r ∈ s.recent) :
    Shelf.Models { a with listed := a.listed.filter (·.1 != r.id), freed := r.id :: a.freed } (s.deleted r.id) where
  listed := by
    rw [h.recent_deleted, hm.listed, List.filter_map]
    rfl
  freed i := by rw [List.mem_cons, hm.freed, h.free_deleted hr]
  used := hm.used.trans (List.length_map _).symm
  saved i := (hm.saved i).trans (snapshot?_congr rfl)

/-- With at most as many rows as the capacity says, nothing is cut off. -/
theorem Shelf.Models.trimmed {n : Nat} (hm : a.Models s) (hlength : s.slots.length ≤ n) : a.Models (s.trimmed n) :=
  hm.of_eq (trimmed_slots ((recent_length_le s).trans hlength)) rfl

/-- A call on a board comes to the same as on a shelf: the same answer, and the shelf says what the rows do. -/
structure Matched (s : Store) (onBoard : Except StoreError (Option Int) × Board)
    (onShelf : Except StoreError (Option Int) × Shelf) : Prop where
  answer : onBoard.1 = onShelf.1
  models : ∃ t, onBoard.2.database = .ready t ∧ t.keys = s.keys ∧ onShelf.2.Models t

theorem Shelf.Models.failed (hm : a.Models s) (hb : b.database = .ready s) (e : StoreError) :
    Matched s (.error e, b) (.error e, a) := ⟨rfl, s, hb, rfl, hm⟩

theorem Shelf.Models.step_rewrite (hm : a.Models s) (hs : Holding first b s) (hlength : s.slots.length ≤ c.size)
    (hclock : StrictMonoOn b.clock.item
      (Set.Ico first (((SlotCall.rewrite id how actor).perform c).on b).2.clock.used)) :
    Matched s (((SlotCall.rewrite id how actor).perform c).on b) (a.step c.size s.knows (.rewrite id how actor)) := by
  rw [on_rewrite hs.ready, plan_eq] at hclock ⊢
  rw [Shelf.step, hm.lookup_eq hs.sound, hm.saved]
  cases hx : how.payload? (s.payload? id) (s.snapshot? id) with
  | none => exact hm.failed hs.ready _
  | some x =>
    rw [hx] at hclock
    dsimp only at hclock ⊢
    cases hrow : s.row? id with
    | none =>
      rw [hm.put_none hs.sound hrow]
      exact hm.failed hs.ready _
    | some before =>
      obtain ⟨hb, rfl⟩ := row?_eq_some hrow
      -- The clock is read before the key is looked for, so the readings go forward in both cases.
      have hnew : ∀ t ∈ b.readings first, t < b.now := by
        rw [hrow] at hclock
        dsimp only at hclock
        split at hclock <;> exact readings_lt_now hclock
      obtain ⟨a', hput, hmodels⟩ := hm.put_some (x := x) hs.sound hs.times hnew hb actor
      rw [hput]
      dsimp only
      by_cases hk : s.knows actor = true
      · rw [if_pos hk, if_pos hk]
        exact ⟨rfl, _, rfl, rfl, hmodels.trimmed ((List.length_map _).trans_le hlength)⟩
      · rw [if_neg hk, if_neg hk]
        exact hm.failed (b := b.ticked) hs.ready _

/-- Each call comes to the same on both sides. -/
theorem Shelf.Models.step (hm : a.Models s) (hs : Holding first b s) (hlength : s.slots.length ≤ c.size)
    (call : SlotCall) (hclock : StrictMonoOn b.clock.item (Set.Ico first ((call.perform c).on b).2.clock.used)) :
    Matched s ((call.perform c).on b) (a.step c.size s.knows call) := by
  cases call with
  | insert x =>
    rw [on_insert hs.ready] at hclock ⊢
    obtain ⟨hid, hmodels⟩ := hm.create (c := c) (x := x) hs.sound hs.times (readings_lt_now hclock)
    have hfilled : (s.filled c b.now x).slots.length ≤ c.size := filled_length.trans (max_le hlength (le_refl _))
    exact ⟨by rw [Shelf.step, hid], _, rfl, (trimmed_keys _).trans filled_keys, hmodels.trimmed hfilled⟩
  | rewrite id how actor => exact hm.step_rewrite hs hlength hclock
  | delete id =>
    rw [on_deleteCall hs.ready, Shelf.step]
    cases hx : a.lookup id with
    | none =>
      rw [if_neg (any_active_iff.not.mpr (hm.not_listed hs.sound hx))]
      exact hm.failed hs.ready _
    | some x =>
      obtain ⟨r, hr, rfl, -⟩ := hm.row_of_lookup hs.sound hx
      rw [if_pos (any_active_iff.mpr ⟨r, hr, rfl⟩)]
      exact ⟨rfl, _, rfl, rfl, hm.remove hs.sound hr⟩

/-! ### Runs -/

/-- A board with sound rows shows what a shelf says of them. -/
theorem Shelf.Models.shows (hm : a.Models s) (hb : b.database = .ready s) (h : s.Sound) {n : Nat}
    (hlength : s.slots.length ≤ n) : b.Shows n a where
  fits := by
    rw [hm.listed, List.length_map]
    exact (recent_length_le s).trans hlength
  distinct := by
    rw [hm.listed, List.map_map]
    exact h.recent_nodup
  listing m hnm := by
    rw [on_list hb, list_eq, List.take_of_length_le ((recent_length_le s).trans (hlength.trans hnm))]
    refine ⟨_, rfl, ?_⟩
    rw [hm.listed, List.map_map, List.map_map]
    exact List.map_congr_left fun r hr => congrArg (Prod.mk r.id) (Row.body_eq (mem_recent.mp hr).2)
  latest := by
    rw [on_latestId hb, latestId_eq, hm.listed, List.head?_map, Option.map_map]
    rfl
  found id x hx := by
    obtain ⟨r, hr, rfl, rfl⟩ := hm.row_of_lookup h hx
    exact h.holds hb hr
  missing id hx := (h.getSlot_notFound_iff hb).mpr (hm.not_listed h hx)

theorem Shelf.Models.run (hm : a.Models s) (hs : Holding first b s) (hlength : s.slots.length ≤ c.size)
    (calls : List SlotCall)
    (hclock : StrictMonoOn b.clock.item (Set.Ico first (b.after (withCapacity c calls)).clock.used)) :
    b.answers (withCapacity c calls) = a.answers c.size s.knows calls ∧
      (b.after (withCapacity c calls)).Shows c.size (a.after c.size s.knows calls) := by
  induction calls generalizing b s a with
  | nil => exact ⟨rfl, hm.shows hs.ready hs.sound hlength⟩
  | cons call calls ih =>
    obtain ⟨t, ht⟩ := hs.perform c call
    have hused := (after_clock ht (withCapacity c calls)).2
    obtain ⟨hanswer, u, hu, hkeys, hmodels⟩ := hm.step hs hlength call
      (StrictMonoOn.mono hclock (Set.Ico_subset_Ico_right hused))
    cases ht.ready.symm.trans hu
    have hlength' : t.slots.length ≤ c.size := (perform_length hs ht).trans (max_le hlength (le_refl _))
    have hknows : t.knows = s.knows := funext fun actor => by rw [Store.knows, hkeys, Store.knows]
    have hitem : ((call.perform c).on b).2.clock.item = b.clock.item := (after_clock hs [(c, call)]).1
    obtain ⟨hanswers, hshows⟩ := ih hmodels ht hlength' (hitem ▸ hclock)
    rw [hknows] at hanswers hshows
    exact ⟨congrArg₂ List.cons hanswer hanswers, hshows⟩

/-- In every run with one capacity and a clock that goes forward, a board without slots and log answers as an empty
shelf does, and shows what is on the shelf. -/
theorem slots_are_a_shelf (hready : b₀.database = .ready s₀) (hslots : s₀.slots = []) (hlog : s₀.log = [])
    (c : Capacity) (calls : List SlotCall)
    (hclock : StrictMonoOn b₀.clock.item (Set.Ico b₀.clock.used (b₀.after (withCapacity c calls)).clock.used)) :
    b₀.answers (withCapacity c calls) = ({} : Shelf).answers c.size s₀.knows calls ∧
      (b₀.after (withCapacity c calls)).Shows c.size (({} : Shelf).after c.size s₀.knows calls) := by
  obtain ⟨s, hs⟩ := Vacant.holding ⟨s₀, hready, hslots, hlog⟩
  cases hs.ready.symm.trans hready
  have hmodels : ({} : Shelf).Models s₀ := by
    refine ⟨?_, fun id => ?_, by rw [hslots]; rfl, fun id => ?_⟩
    · have hnone := recent_length_le s₀
      rw [hslots, List.length_nil, Nat.le_zero, List.length_eq_zero_iff] at hnone
      rw [hnone]
      rfl
    · simp [Free, hslots]
    · simp [snapshot?_eq, overwrites, hlog]
  exact hmodels.run hs (by rw [hslots]; exact Nat.zero_le _) calls hclock

/-- On a shelf of two places: the first slot is replaced in its place and restored, the second is deleted and its id
is taken again, and the fourth payload takes the place of the first slot. -/
theorem slots_are_a_shelf_of_two : ∃ b', b' = (fresh counting).after (withCapacity (.of 2)
      [.insert (.text "a"), .insert (.text "b"), .rewrite 1 (.update (.text "x")) {}, .rewrite 1 .restore {}, .delete 2,
        .rewrite 2 (.patchText none) {}, .insert (.text "c"), .insert (.text "d")]) ∧
    (latestId.on b').1 = .ok (some 1) ∧ b'.Holds 1 (.text "d") ∧ b'.Holds 2 (.text "c") ∧
    ((getSlot 3).on b').1 = .error .notFound := by
  obtain ⟨-, hshows⟩ := slots_are_a_shelf (rfl : (fresh counting).database = .ready _) rfl rfl (.of 2)
    [.insert (.text "a"), .insert (.text "b"), .rewrite 1 (.update (.text "x")) {}, .rewrite 1 .restore {}, .delete 2,
      .rewrite 2 (.patchText none) {}, .insert (.text "c"), .insert (.text "d")] (counting_strictMono.strictMonoOn _)
  exact ⟨_, rfl, hshows.latest, hshows.found 1 _ rfl, hshows.found 2 _ rfl, hshows.missing 3 rfl⟩

end Pasteboard
