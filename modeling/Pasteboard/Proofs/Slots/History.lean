import Pasteboard.Proofs.Log.Entries
/-!
The metadata of a row, as its history tells it.

A new payload fills a row, and from then on the row is replaced, until a new payload takes it again. Nothing else
writes to the metadata: a row that is retired keeps it. So the times and the revision of a row can be read off the
list of the writes that it has seen.
-/

namespace Pasteboard
open Board Store

/-- What a row tells of its past. -/
structure Metadata where
  createdAt : Option Int
  updatedAt : Option Int
  revision : Int

def Row.metadata (r : Row) : Metadata := ⟨r.createdAt, r.updatedAt, r.revision⟩

/-- A replacement of the payload of a row: when it was made, and whether it revived an inactive row. -/
structure Replaced where
  time : Int
  revives : Bool

/-- What a call did to one row. -/
inductive Write
  | fill (time : Int)
  | replace (replaced : Replaced)

namespace Store
variable {s : Store} {p : Row → Bool} {c : Capacity} {id i now : Int} {x : Payload} {before : Row} {actor : Actor}

/-- The metadata of the row with an id. -/
def metadata? (id : Int) (s : Store) : Option Metadata := (s.row? id).map Row.metadata

theorem metadata?_retire : (s.changeRows p Row.retired).metadata? id = s.metadata? id := map_row?_retire fun _ => rfl

theorem fill_metadata (r : Row) : (fill now x r).metadata = ⟨some now, none, 0⟩ := by cases x <;> rfl

theorem refill_metadata (r : Row) : (refill now x r).metadata =
    ⟨if r.isActive then r.createdAt else some now, some now, r.revision + 1⟩ := by cases x <;> rfl

theorem metadata?_filled : (s.filled c now x).metadata? id =
    if id = (s.claim c).1 then some ⟨some now, none, 0⟩ else s.metadata? id := by
  rw [metadata?, row?_filled]
  by_cases hid : id = (s.claim c).1
  · rw [if_pos hid, if_pos hid, Option.map_some, fill_metadata]
  · rw [if_neg hid, if_neg hid, metadata?]

theorem metadata?_rewritten (h : s.row? i = some before) : (s.rewritten now before x actor).metadata? id =
    if id = i then some ⟨if before.isActive then before.createdAt else some now, some now, before.revision + 1⟩
    else s.metadata? id := by
  rw [metadata?, row?_rewritten h]
  by_cases hid : id = i
  · rw [if_pos hid, if_pos hid, Option.map_some, refill_metadata]
  · rw [if_neg hid, if_neg hid, metadata?]

end Store

variable {b : Board} {s : Store} {c : Capacity} {call : SlotCall} {v : Option Int} {id : Int} {first : Nat}

/-! ### One call -/

/-- What a call that answers with `v` writes to the row with an id. -/
def SlotCall.writes? (b : Board) (id : Int) (v : Option Int) : SlotCall → Option Write
  | .insert _ => if v = some id then some (.fill b.now) else none
  | .rewrite i _ _ => if i = id then some (.replace ⟨b.now, (b.store.payload? id).isNone⟩) else none
  | .delete _ => none

/-- What a call writes to the row with an id; one that fails writes nothing. -/
def Board.write? (b : Board) (c : Capacity) (call : SlotCall) (id : Int) : Option Write :=
  match ((call.perform c).on b).1 with
  | .ok v => call.writes? b id v
  | .error _ => none

/-- A new payload in the row and a replacement of it are all that writes to it. -/
theorem write?_eq_none (htaken : ((call.perform c).on b).1 ≠ .ok (some id)) (hkept : ¬b.Replaces c call id) :
    b.write? c call id = none := by
  cases hanswer : ((call.perform c).on b).1 with
  | error e => rw [write?, hanswer]
  | ok v =>
    rw [write?, hanswer]
    cases call with
    | insert x =>
      refine if_neg ?_
      rintro rfl
      exact htaken hanswer
    | rewrite i how actor =>
      refine if_neg ?_
      rintro rfl
      exact hkept ⟨how, actor, v, rfl, hanswer⟩
    | delete i => rfl

/-- The metadata of a row before a write and after it. -/
inductive Written : Option Write → Option Metadata → Option Metadata → Prop
  | kept {m : Option Metadata} : Written none m m
  | filled {time : Int} {m : Option Metadata} : Written (some (.fill time)) m (some ⟨some time, none, 0⟩)
  | replaced {r : Replaced} {m : Metadata} : Written (some (.replace r)) (some m)
      (some ⟨if r.revives then some r.time else m.createdAt, some r.time, m.revision + 1⟩)

theorem Written.eq_of_none {m m' : Option Metadata} (hw : Written none m m') : m' = m := by
  cases hw
  rfl

theorem Performed.wrote {b' : Board} {t : Store} (hp : Performed c b s call v b') (hs : b.database = .ready s)
    (ht : b'.database = .ready t) (id : Int) :
    Written (call.writes? b id v) (s.metadata? id) (t.metadata? id) := by
  cases hp with
  | @insert x =>
    cases ht
    rw [trimmed, metadata?_retire, metadata?_filled, SlotCall.writes?]
    by_cases hid : id = (s.claim c).1
    · rw [if_pos hid, if_pos (congrArg some hid.symm)]
      exact .filled
    · rw [if_neg hid, if_neg fun hsame => hid (Option.some.inj hsame).symm]
      exact .kept
  | @rewrite i how actor before x hplan _ =>
    cases ht
    obtain ⟨-, hrow⟩ := plan_eq_ok.mp hplan
    rw [trimmed, metadata?_retire, metadata?_rewritten hrow, SlotCall.writes?]
    by_cases hid : id = i
    · subst hid
      have hbefore : s.metadata? id = some before.metadata := by rw [metadata?, hrow, Option.map_some]
      have hrevives : (b.store.payload? id).isNone = !before.isActive := by
        rw [store_eq hs, Store.payload?, hrow]
        cases hact : before.isActive <;> simp [hact]
      rw [if_pos rfl, if_pos rfl, hbefore, hrevives]
      cases hact : before.isActive
      · exact .replaced
      · exact .replaced
    · rw [if_neg hid, if_neg (Ne.symm hid)]
      exact .kept
  | delete =>
    cases ht
    rw [deleted, metadata?_retire]
    exact .kept

/-- After a call the metadata of a row is what the call wrote to it, or what it was. -/
theorem Board.Holding.wrote (h : Holding first b s) (c : Capacity) (call : SlotCall) (id : Int) :
    Written (b.write? c call id) (s.metadata? id) (((call.perform c).on b).2.store.metadata? id) := by
  obtain ⟨t, ht⟩ := h.perform c call
  rcases perform_cases h.ready c call with ⟨e, he⟩ | ⟨v, b', hok, hp⟩
  · have hkept : b.write? c call id = none ∧ ((call.perform c).on b).2.store = s := by
      rcases he with he | he <;> rw [write?, he] <;> exact ⟨rfl, store_eq h.ready⟩
    rw [hkept.1, hkept.2]
    exact .kept
  · rw [hok] at ht
    rw [write?, hok, store_eq ht.ready]
    exact hp.wrote h.ready ht.ready id

/-! ### Runs -/

/-- What a run writes to the row with an id, in order. -/
def Board.writes (id : Int) : Board → List (Capacity × SlotCall) → List Write
  | _, [] => []
  | b, (c, call) :: calls => (b.write? c call id).toList ++ ((call.perform c).on b).2.writes id calls

theorem writes_append (b : Board) (id : Int) (calls later : List (Capacity × SlotCall)) :
    b.writes id (calls ++ later) = b.writes id calls ++ (b.after calls).writes id later := by
  induction calls generalizing b with
  | nil => rfl
  | cons call calls ih =>
    show (b.write? call.1 call.2 id).toList ++ Board.writes id _ (calls ++ later) = (_ ++ _) ++ _
    rw [ih, List.append_assoc]
    rfl

/-- What the writes to a row tell of its metadata. Without a row there are none. A row was filled at some time, and
since it was replaced as often as its revision says; it was updated by the last of these replacements, and created by
the last of them that revived it, or else by what filled it. -/
def Tells (writes : List Write) : Option Metadata → Prop
  | none => writes = []
  | some m => ∃ (earlier : List Write) (time : Int) (later : List Replaced),
      writes = earlier ++ .fill time :: later.map .replace ∧ m.revision = later.length ∧
      m.updatedAt = later.getLast?.map (·.time) ∧
      m.createdAt = some (((later.filter (·.revives)).getLast?.map (·.time)).getD time)

theorem Written.tells {writes : List Write} {w : Option Write} {m m' : Option Metadata} (hw : Written w m m')
    (h : Tells writes m) : Tells (writes ++ w.toList) m' := by
  cases hw with
  | kept => rwa [Option.toList_none, List.append_nil]
  | @filled time => exact ⟨writes, time, [], rfl, rfl, rfl, rfl⟩
  | @replaced r m =>
    obtain ⟨earlier, time, later, rfl, hrevision, hupdated, hcreated⟩ := h
    refine ⟨earlier, time, later ++ [r], by simp, by simp [hrevision], by simp, ?_⟩
    cases hrevives : r.revives <;> simp [hrevives, hcreated]

theorem Board.Holding.tells (h : Holding first b s) {writes : List Write} (hw : Tells writes (s.metadata? id))
    (calls : List (Capacity × SlotCall)) :
    Tells (writes ++ b.writes id calls) ((b.after calls).store.metadata? id) := by
  induction calls generalizing b s writes with
  | nil =>
    show Tells (writes ++ []) (b.store.metadata? id)
    rwa [List.append_nil, store_eq h.ready]
  | cons call calls ih =>
    obtain ⟨t, ht⟩ := h.perform call.1 call.2
    have htells := (h.wrote call.1 call.2 id).tells hw
    rw [store_eq ht.ready] at htells
    show Tells (writes ++ ((b.write? call.1 call.2 id).toList ++ _)) _
    rw [← List.append_assoc]
    exact ih ht htells

/-- In every run from an empty store, with any capacities and any readings of the clock, and for every id: there is a
row if anything was written to it. Its revision is the number of replacements since it was filled last, it was updated
at the reading of the last of these or never, and created at the reading of the last of these that found it inactive, or
else of what filled it. A call that neither gives the row a new payload nor replaces it leaves all three as they are. -/
theorem metadata_follows_history (h : b.Vacant) (calls : List (Capacity × SlotCall)) (id : Int) :
    ∃ s, (b.after calls).database = .ready s ∧ (s.row? id = none → b.writes id calls = []) ∧
      (∀ r, s.row? id = some r → ∃ (earlier : List Write) (time : Int) (later : List Replaced),
        b.writes id calls = earlier ++ .fill time :: later.map .replace ∧
        r.revision = later.length ∧ r.updatedAt = later.getLast?.map (·.time) ∧
        r.createdAt = some (((later.filter (·.revives)).getLast?.map (·.time)).getD time)) ∧
      ∀ c call, ((call.perform c).on (b.after calls)).1 ≠ .ok (some id) → ¬(b.after calls).Replaces c call id →
        ∃ t, ((call.perform c).on (b.after calls)).2.database = .ready t ∧ t.metadata? id = s.metadata? id := by
  obtain ⟨s₀, hs₀⟩ := h.holding
  obtain ⟨s, hs⟩ := hs₀.after calls
  have hbegin : Tells [] (s₀.metadata? id) := by
    obtain ⟨t, ht, hslots, -⟩ := h
    obtain rfl := Database.ready.inj (hs₀.ready.symm.trans ht)
    rw [metadata?, row?, hslots]
    rfl
  have htells := hs₀.tells hbegin calls
  rw [List.nil_append, store_eq hs.ready, metadata?] at htells
  refine ⟨s, hs.ready, fun hnone => ?_, fun r hr => ?_, fun c call htaken hkept => ?_⟩
  · rwa [hnone] at htells
  · rwa [hr] at htells
  · obtain ⟨t, ht⟩ := hs.perform c call
    have hwritten := hs.wrote c call id
    rw [write?_eq_none htaken hkept, store_eq ht.ready] at hwritten
    exact ⟨t, ht.ready, hwritten.eq_of_none⟩

/-- The place of the first of two slots is taken, and the new slot is deleted. -/
def takenOver : List (Capacity × SlotCall) :=
  [(.of 2, .insert (.text "a")), (.of 2, .insert (.text "b")), (.of 2, .insert (.text "c")), (.of 2, .delete 1)]

/-- The deleted slot is replaced. -/
def revived : List (Capacity × SlotCall) := takenOver ++ [(.of 2, .rewrite 1 (.update (.text "d")) {})]

/-- A replacement of the deleted slot revives its row, which was filled twice. -/
theorem metadata_follows_history_revived : (fresh counting).Vacant ∧
    (fresh counting).writes 1 revived = [.fill 1000] ++ .fill 1002 :: [⟨1003, true⟩].map .replace ∧
    ∃ s r, ((fresh counting).after revived).database = .ready s ∧ s.row? 1 = some r ∧
      r.metadata = ⟨some 1003, some 1003, 1⟩ ∧ ∃ (earlier : List Write) (time : Int) (later : List Replaced),
        (fresh counting).writes 1 revived = earlier ++ .fill time :: later.map .replace ∧
        r.revision = later.length ∧ r.updatedAt = later.getLast?.map (·.time) ∧
        r.createdAt = some (((later.filter (·.revives)).getLast?.map (·.time)).getD time) := by
  have hs : ((fresh counting).after takenOver).database = .ready {
      slots := [(fill 1002 (.text "c") (.fresh 1)).retired, fill 1001 (.text "b") (.fresh 2)]
      index := some { entries := [⟨2, some "b"⟩], faults := 0 } } := by
    cbv
  have hnow : ((fresh counting).after takenOver).now = 1003 := by cbv
  have hok : ((SlotCall.rewrite 1 (.update (.text "d")) {}).perform (.of 2)).on
      ((fresh counting).after takenOver) = _ :=
    on_rewrite hs
  have hfirst : (fresh counting).writes 1 takenOver = [.fill 1000, .fill 1002] := by cbv
  have hlast : ((fresh counting).after takenOver).write? (.of 2) (.rewrite 1 (.update (.text "d")) {}) 1 =
      some (.replace ⟨1003, true⟩) := by
    rw [write?, hok, ← hnow]
    show some (Write.replace ⟨_, (((fresh counting).after takenOver).store.payload? 1).isNone⟩) = _
    rw [store_eq hs]
    rfl
  have hwrites : (fresh counting).writes 1 revived = [.fill 1000] ++ .fill 1002 :: [⟨1003, true⟩].map .replace := by
    rw [revived, writes_append, hfirst, Board.writes, hlast]
    rfl
  obtain ⟨t, ht, -, htells, -⟩ := metadata_follows_history (fresh_vacant counting) revived 1
  have hmetadata : t.metadata? 1 = some ⟨some 1003, some 1003, 1⟩ := by
    cases Database.ready.inj (ht.symm.trans (congrArg (·.2.database) hok))
    rw [trimmed, metadata?_retire, metadata?_rewritten (i := 1) rfl, hnow]
    rfl
  rw [metadata?, Option.map_eq_some_iff] at hmetadata
  obtain ⟨r, hrow, hr⟩ := hmetadata
  exact ⟨fresh_vacant counting, hwrites, t, r, ht, hrow, hr, htells r hrow⟩

end Pasteboard
