import Pasteboard.Proofs.Slots.Payloads
import Pasteboard.Proofs.Slots.Snapshot
/-!
The entry that a replacement leaves in the log.

It describes two payloads: that of the slot before, if the slot was active, and the one that was written.
Entries are only ever appended, one for each replacement that succeeds, under an id above all others.
-/

namespace Pasteboard

open Pasteboard.Text

/-- The columns of an entry that describe a payload, of which those of the other kind are empty. -/
structure Digest where
  textHash : Option String := none
  textSize : Option Nat := none
  fileHash : Option String := none
  fileSize : Option Nat := none
  mime : Option String := none
  filename : Option String := none

/-- What the columns say of a payload, or of none. -/
def Digest.of : Option Payload → Digest
  | none => {}
  | some (.text content) => { textHash := some (Sha256.hexOfText content), textSize := some content.utf8ByteSize }
  | some (.file upload) =>
    { fileHash := some (Sha256.hex upload.data), fileSize := some upload.data.size
      mime := some upload.mime, filename := some upload.filename }

namespace LogEntry

/-- What an entry says of the payload before. -/
def before (e : LogEntry) : Digest :=
  ⟨e.textHashBefore, e.textSizeBefore, e.fileHashBefore, e.fileSizeBefore, e.mimeBefore, e.filenameBefore⟩

/-- What an entry says of the payload after. -/
def after (e : LogEntry) : Digest :=
  ⟨e.textHashAfter, e.textSizeAfter, e.fileHashAfter, e.fileSizeAfter, e.mimeAfter, e.filenameAfter⟩

/-- An entry is about a replacement of the payload `old` of a slot, or of none, by the payload `new`. -/
structure Describes (e : LogEntry) (id : Int) (old : Option Payload) (new : Payload) : Prop where
  slot : e.slotId = id
  before : e.before = Digest.of old
  after : e.after = Digest.of (some new)
  content : e.contentBefore = old.bind textIn
  excerpt : e.excerptBefore = (old.bind textIn).map (clip excerptBytes)

theorem ofReplacement_before {r : Row} (h : r.check = true) {n now : Int} {x : Payload} {actor : Actor} :
    (ofReplacement n now r x actor).before = Digest.of (if r.isActive then some r.payload else none) := by
  rcases Row.check_cases h with ⟨hact, -⟩ | ⟨content, hact, hfile, hcontent, hname, hmime, -⟩ |
      ⟨filename, mime, data, hact, hfile, -, hname, hmime, hblob⟩
  · simp [ofReplacement, before, Digest.of, textOf, dataOf, Row.isActiveText, Row.isActiveFile, hact]
  · simp [ofReplacement, before, Digest.of, textOf, dataOf, Row.isActiveText, Row.isActiveFile, Row.payload, hact,
      hfile, hcontent, hname, hmime]
  · simp [ofReplacement, before, Digest.of, textOf, dataOf, Row.isActiveText, Row.isActiveFile, Row.payload, hact,
      hfile, hname, hmime, hblob]

theorem ofReplacement_describes {r : Row} (h : r.check = true) (n now : Int) (x : Payload) (actor : Actor) :
    (ofReplacement n now r x actor).Describes r.id (if r.isActive then some r.payload else none) x :=
  have htext : textOf r = (if r.isActive then some r.payload else none).bind textIn := by
    rw [textOf_eq h]
    cases r.isActive <;> rfl
  { slot := rfl
    before := ofReplacement_before h
    after := by cases x <;> rfl
    content := htext
    excerpt := congrArg (Option.map (clip excerptBytes)) htext }

end LogEntry

open Board Store

variable {b b' : Board} {s t : Store} {c : Capacity} {call : SlotCall} {v : Option Int} {id : Int} {how : Rewrite}
  {actor : Actor} {first : Nat} {calls : List (Capacity × SlotCall)}

/-! ### One call -/

/-- A call replaces the payload of a slot. -/
def Board.Replaces (b : Board) (c : Capacity) (call : SlotCall) (id : Int) : Prop :=
  ∃ how actor v, call = .rewrite id how actor ∧ ((call.perform c).on b).1 = .ok v

/-- A call appends an entry to the log. -/
def Board.Appends (b : Board) (call : Capacity × SlotCall) (e : LogEntry) : Prop :=
  ((call.2.perform call.1).on b).2.store.log = b.store.log ++ [e]

theorem Board.Appends.log {e : LogEntry} (h : b.Appends (c, call) e) (hs : b.database = .ready s)
    (ht : ((call.perform c).on b).2.database = .ready t) : t.log = s.log ++ [e] := by
  rw [← store_eq hs, ← store_eq ht]
  exact h

theorem Performed.log (hp : Performed c b s call v b') (ht : b'.database = .ready t) :
    (∃ id how actor before x, call = .rewrite id how actor ∧ how.plan id s = .ok (before, x) ∧
      t.log = s.log ++ [LogEntry.ofReplacement (nextId (s.log.map (·.id))) b.now before x actor]) ∨
    (∀ id how actor, call ≠ .rewrite id how actor) ∧ t.log = s.log := by
  cases hp with
  | @insert x =>
    cases ht
    have hlog : (s.filled c b.now x).log = s.log := filled_log
    exact Or.inr ⟨fun _ _ _ h => (nomatch h), hlog⟩
  | rewrite hplan =>
    cases ht
    exact Or.inl ⟨_, _, _, _, _, rfl, hplan, rfl⟩
  | delete =>
    cases ht
    exact Or.inr ⟨fun _ _ _ h => (nomatch h), rfl⟩

/-- A replacement that succeeds appends the entry that describes it. -/
theorem Board.Holding.log_replaced (h : Holding first b s)
    (hok : ((SlotCall.rewrite id how actor).perform c).on b = (.ok v, b')) :
    ∃ e x, b.Appends (c, .rewrite id how actor) e ∧ (∀ d ∈ s.log, d.id < e.id) ∧
      how.payload? (s.payload? id) (s.snapshot? id) = some x ∧ e.Describes id (s.payload? id) x := by
  have hp := performed_of_ok h.ready hok
  obtain ⟨t, ht⟩ := h.performed hp
  rcases hp.log ht.ready with ⟨_, _, _, before, x, hcall, hplan, hlog⟩ | ⟨hnot, -⟩
  · cases hcall
    obtain ⟨hx, hrow⟩ := plan_eq_ok.mp hplan
    obtain ⟨hb, hid⟩ := row?_eq_some hrow
    have hpayload : s.payload? id = if before.isActive then some before.payload else none := by
      rw [Store.payload?, hrow]
      rfl
    refine ⟨_, x, by rw [Appends, hok, store_eq ht.ready, store_eq h.ready, hlog], fun d hd => ?_, hx, ?_⟩
    · exact lt_nextId (List.mem_map_of_mem hd)
    · rw [hpayload, ← hid]
      exact LogEntry.ofReplacement_describes (h.sound.check before hb) ..
  · exact absurd rfl (hnot id how actor)

/-- Whatever else is called, and whatever fails, leaves the log alone. -/
theorem Board.Holding.log_kept (h : Holding first b s) (hnot : ∀ id, ¬b.Replaces c call id) :
    ((call.perform c).on b).2.store.log = s.log := by
  obtain ⟨t, ht⟩ := h.perform c call
  rw [store_eq ht.ready]
  rcases same_or_performed h.ready ht.ready with rfl | ⟨v, hok, hp⟩
  · rfl
  · rcases hp.log ht.ready with ⟨id, how, actor, -, -, rfl, -⟩ | ⟨-, hlog⟩
    · exact absurd ⟨how, actor, v, rfl, hok⟩ (hnot id)
    · exact hlog

theorem Board.Holding.log_cases (h : Holding first b s) (c : Capacity) (call : SlotCall) :
    (∃ e, b.Appends (c, call) e) ∨ (∀ id, ¬b.Replaces c call id) ∧ ((call.perform c).on b).2.store.log = s.log := by
  by_cases hr : ∃ id, b.Replaces c call id
  · obtain ⟨id, how, actor, v, rfl, hok⟩ := hr
    obtain ⟨e, -, happends, -⟩ := h.log_replaced (Prod.ext hok rfl)
    exact Or.inl ⟨e, happends⟩
  · exact Or.inr ⟨not_exists.mp hr, h.log_kept (not_exists.mp hr)⟩

/-- An entry is appended by a replacement of its slot, and describes it. -/
theorem Board.Holding.appended (h : Holding first b s) {e : LogEntry} (he : b.Appends (c, call) e) :
    ∃ how actor v x, call = .rewrite e.slotId how actor ∧ ((call.perform c).on b).1 = .ok v ∧
      how.payload? (s.payload? e.slotId) (s.snapshot? e.slotId) = some x ∧
      e.Describes e.slotId (s.payload? e.slotId) x := by
  by_cases hr : ∃ id, b.Replaces c call id
  · obtain ⟨id, how, actor, v, rfl, hok⟩ := hr
    obtain ⟨d, x, hd, -, hx, hdescribes⟩ := h.log_replaced (Prod.ext hok rfl)
    have hsame : b.store.log ++ [d] = b.store.log ++ [e] := hd.symm.trans he
    obtain rfl := List.singleton_inj.mp ((List.append_right_inj _).mp hsame)
    obtain rfl := hdescribes.slot
    exact ⟨how, actor, v, x, rfl, hok, hx, hdescribes⟩
  · have hlog := (h.log_kept (not_exists.mp hr)).symm.trans he
    rw [store_eq h.ready, List.self_eq_append_right] at hlog
    cases hlog

/-! ### Runs -/

theorem Board.Holding.log_prefix (h : Holding first b s) (calls : List (Capacity × SlotCall)) :
    s.log <+: (b.after calls).store.log := by
  induction calls generalizing b s with
  | nil =>
    show s.log <+: b.store.log
    rw [store_eq h.ready]
  | cons call calls ih =>
    obtain ⟨t, ht⟩ := h.perform call.1 call.2
    refine List.IsPrefix.trans ?_ (ih ht)
    rcases h.log_cases call.1 call.2 with ⟨e, he⟩ | ⟨-, hlog⟩
    · rw [he.log h.ready ht.ready]
      exact List.prefix_append _ _
    · rw [store_eq ht.ready] at hlog
      rw [hlog]

/-- Every entry that a run adds was appended by one of its calls. -/
theorem Board.Holding.written (h : Holding first b s) {l r : List LogEntry} {e : LogEntry}
    (hlog : (b.after calls).store.log = l ++ e :: r) (hl : s.log.length ≤ l.length) :
    ∃ earlier call rest, calls = earlier ++ call :: rest ∧ (b.after earlier).store.log = l ∧
      (b.after earlier).Appends call e := by
  induction calls generalizing b s with
  | nil =>
    rw [Board.after, store_eq h.ready] at hlog
    rw [hlog, List.length_append, List.length_cons] at hl
    omega
  | cons call calls ih =>
    obtain ⟨t, ht⟩ := h.perform call.1 call.2
    by_cases hlt : t.log.length ≤ l.length
    · obtain ⟨earlier, found, rest, rfl, hbefore, he⟩ := ih ht hlog hlt
      exact ⟨call :: earlier, found, rest, rfl, hbefore, he⟩
    · -- This call makes the log longer than `l`, so what it appends is the entry after `l`.
      rcases h.log_cases call.1 call.2 with ⟨d, hd⟩ | ⟨-, hd⟩
      · have hadd := hd.log h.ready ht.ready
        obtain ⟨r', hr'⟩ : t.log <+: l ++ e :: r := hlog ▸ ht.log_prefix calls
        rw [hadd, List.append_assoc] at hr'
        rw [hadd, List.length_append, List.length_singleton] at hlt
        obtain ⟨hs, he⟩ := List.append_inj hr' (by omega)
        cases he
        exact ⟨[], call, calls, rfl, (store_eq h.ready).symm ▸ hs, hd⟩
      · rw [store_eq ht.ready] at hd
        rw [hd] at hlt
        exact absurd hl hlt

end Pasteboard
