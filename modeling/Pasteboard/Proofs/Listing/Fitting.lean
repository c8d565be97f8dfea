import Pasteboard.Proofs.Board.Reachable
import Pasteboard.Proofs.Listing.Cut
import Pasteboard.Proofs.Search.Swapped
import Pasteboard.Proofs.Slots.Payloads
/-!
What a listed record shows of its filter.

A filter is compared with the columns of a row, and clients see the record of the row. Of an active row both say the
same. A row that is retired loses the columns of its payload but for the one that tells a file from a text: its record
shows no payload, and a filter still finds it by the kind of the payload that was written into it last.
-/

namespace Pasteboard
open Board Store

/-! ### What a call writes into a slot -/

/-- The payload that a call that answers with `v` writes into the slot with an id. -/
def SlotCall.puts? (s : Store) (id : Int) (v : Option Int) : SlotCall → Option Payload
  | .insert x => if v = some id then some x else none
  | .rewrite i how _ => if id = i then how.payload? (s.payload? id) (s.snapshot? id) else none
  | .delete _ => none

/-- The payload that a call writes into the slot with an id; one that fails writes nothing. -/
def Board.puts? (b : Board) (c : Capacity) (call : SlotCall) (id : Int) : Option Payload :=
  match ((call.perform c).on b).1 with
  | .ok v => call.puts? b.store id v
  | .error _ => none

/-- The payload that was written last into the slot with an id. It need not be there any more, even right after the call
that wrote it. -/
inductive Board.LastPut (id : Int) (x : Payload) : Board → Prop
  | put {b : Board} {c : Capacity} {call : SlotCall} (reached : b.Reachable) (written : b.puts? c call id = some x) :
      LastPut id x ((call.perform c).on b).2
  | slots {b : Board} {c : Capacity} {call : SlotCall} (before : LastPut id x b) (kept : b.puts? c call id = none) :
      LastPut id x ((call.perform c).on b).2
  | tables {b : Board} (before : LastPut id x b) (fullText : Bool) : LastPut id x ((createTables fullText).on b).2
  | access {b : Board} (before : LastPut id x b) (call : AccessCall) : LastPut id x (call.on b)

/-- Whether the row with an id is one of a file, be it active or not. -/
def Store.kind? (id : Int) (s : Store) : Option Bool := (s.row? id).map (·.isFile)

variable {b : Board} {s t : Store} {p : Row → Bool} {c : Capacity} {id i now : Int} {x : Payload} {before : Row}
  {actor : Actor} {call : SlotCall} {v : Option Int} {kind : Bool}

namespace Store

theorem kind?_retire : (s.changeRows p Row.retired).kind? id = s.kind? id := map_row?_retire fun _ => rfl

theorem kind?_filled : (s.filled c now x).kind? id = if id = (s.claim c).1 then some x.isFile else s.kind? id := by
  have hfill : (fill now x (Row.fresh id)).isFile = x.isFile := Payload.isFile_withPayload _ x
  rw [kind?, row?_filled, apply_ite (Option.map Row.isFile), Option.map_some, hfill, kind?]

theorem kind?_rewritten (h : s.row? i = some before) :
    (s.rewritten now before x actor).kind? id = if id = i then some x.isFile else s.kind? id := by
  have hrefill : (refill now x before).isFile = x.isFile := Payload.isFile_withPayload _ x
  rw [kind?, row?_rewritten h, apply_ite (Option.map Row.isFile), Option.map_some, hrefill, kind?]

end Store

theorem Performed.kind? {b' : Board} (hp : Performed c b s call v b') (ht : b'.database = .ready t) (id : Int) :
    t.kind? id = ((call.puts? s id v).map Payload.isFile).or (s.kind? id) := by
  cases hp with
  | @insert x =>
    cases ht
    rw [trimmed, kind?_retire, kind?_filled, SlotCall.puts?]
    by_cases hid : id = (s.claim c).1
    · rw [if_pos hid, if_pos (congrArg some hid.symm)]
      rfl
    · rw [if_neg hid, if_neg fun hsame => hid (Option.some.inj hsame).symm]
      rfl
  | @rewrite i how actor before x hplan _ =>
    cases ht
    obtain ⟨hx, hrow⟩ := plan_eq_ok.mp hplan
    rw [trimmed, kind?_retire, kind?_rewritten hrow, SlotCall.puts?]
    by_cases hid : id = i
    · rw [if_pos hid, if_pos hid, hid, hx]
      rfl
    · rw [if_neg hid, if_neg hid]
      rfl
  | delete =>
    cases ht
    rw [deleted, kind?_retire]
    rfl

/-- After a call the row with an id is of the kind that the call wrote there, or else of the kind that it was of. -/
theorem kind?_perform (b : Board) (c : Capacity) (call : SlotCall) (id : Int) :
    ((call.perform c).on b).2.store.kind? id = ((b.puts? c call id).map Payload.isFile).or (b.store.kind? id) := by
  by_cases hready : ∃ s, b.database = .ready s
  · obtain ⟨s, hs⟩ := hready
    rcases perform_cases hs c call with ⟨e, he | he⟩ | ⟨v, b', hok, hp⟩
    · rw [puts?, he]
      rfl
    · rw [puts?, he]
      rfl
    · obtain ⟨t, ht⟩ := hp.ready
      rw [puts?, hok, store_eq hs, store_eq ht]
      exact hp.kind? ht id
  · obtain ⟨e, b', he, hsame, -⟩ := perform_unready (not_exists.mp hready) c call
    rw [puts?, he, store_congr hsame]
    rfl

theorem kind?_createTables (fullText : Bool) (b : Board) (id : Int) :
    ((createTables fullText).on b).2.store.kind? id = b.store.kind? id := by
  obtain ⟨index, -, hcreate⟩ := on_createTables fullText b
  rw [hcreate, store_eq rfl]
  rfl

theorem kind?_access (call : AccessCall) (b : Board) (id : Int) : (call.on b).store.kind? id = b.store.kind? id := by
  rw [kind?, row?, (call.accessed b).slots, ← row?, ← kind?]

/-- The row of a slot is of the kind of the payload that was written there last. -/
theorem Board.LastPut.kind? (h : b.LastPut id x) : b.store.kind? id = some x.isFile := by
  induction h with
  | put reached written =>
    rw [kind?_perform, written]
    rfl
  | slots before kept ih =>
    rw [kind?_perform, kept]
    exact ih
  | tables before fullText ih => rwa [kind?_createTables]
  | access before call ih => rwa [kind?_access]

/-- Where there is a row something was written into it. -/
theorem Board.Reachable.exists_lastPut (h : b.Reachable) (hkind : b.store.kind? id = some kind) :
    ∃ x, b.LastPut id x := by
  induction h with
  | start hnone =>
    rw [store_unready hnone] at hkind
    cases hkind
  | tables _ fullText ih =>
    rw [kind?_createTables] at hkind
    obtain ⟨x, hx⟩ := ih hkind
    exact ⟨x, .tables hx fullText⟩
  | @slots b hb c call ih =>
    cases hput : b.puts? c call id with
    | some x => exact ⟨x, .put hb hput⟩
    | none =>
      rw [kind?_perform, hput] at hkind
      obtain ⟨x, hx⟩ := ih hkind
      exact ⟨x, .slots hx hput⟩
  | access _ call ih =>
    rw [kind?_access] at hkind
    obtain ⟨x, hx⟩ := ih hkind
    exact ⟨x, .access hx call⟩

/-! ### What a listing shows -/

/-- A record shows that it belongs to a listing with a filter. A retired slot, which shows nothing, is listed by the
kind of the payload that was written there last. -/
structure Board.Fits (b : Board) (f : Filter) (q : Record) : Prop where
  active : f.includeInactive = false → q.isActive = true
  kind : ∀ isFile, f.isFile = some isFile → q.isActive = true → q.isFile = isFile
  retired : ∀ isFile, f.isFile = some isFile → q.isActive = false →
    q.isFile = false ∧ (∃ x, b.LastPut q.id x) ∧ ∀ x, b.LastPut q.id x → x.isFile = isFile
  mime : ∀ mime, f.mime = some mime → ∃ name size, q.body = .file name mime size
  filename : ∀ name, f.filename = some name → ∃ mime size, q.body = .file name mime size

variable {f : Filter} {r : Row}

theorem Row.record_isFile_of_active (hact : r.isActive = true) : r.record.isFile = r.isFile := by
  cases hfile : r.isFile <;> simp [record, Record.isFile, body, hact, hfile]

theorem Row.record_isFile_of_retired (hact : r.isActive = false) : r.record.isFile = false := by
  simp [record, Record.isFile, body, hact]

/-- A row with a media type or a name is an active file, and its record shows both. -/
theorem Row.body_of_named (hcheck : r.check = true) (hnamed : r.mime ≠ none ∨ r.filename ≠ none) :
    ∃ name mime size, r.filename = some name ∧ r.mime = some mime ∧ r.body = .file name mime size := by
  rcases Row.check_cases hcheck with ⟨-, -, hname, hmime, -⟩ | ⟨content, -, -, -, hname, hmime, -⟩ |
    ⟨name, mime, data, hact, hfile, -, hname, hmime, hdata⟩
  · rcases hnamed with h | h
    · exact absurd hmime h
    · exact absurd hname h
  · rcases hnamed with h | h
    · exact absurd hmime h
    · exact absurd hname h
  · exact ⟨name, mime, data.size, hname, hmime, by simp [body, hact, hfile, hname, hmime, hdata]⟩

theorem Board.Reachable.fits (h : b.Reachable) (hs : b.database = .ready s) (hr : r ∈ s.slots)
    (hselects : f.predicate.selects r = true) : b.Fits f r.record := by
  have hsound := h.sound hs
  obtain ⟨hactive, hkind, hmime, hname⟩ := Filter.selects_iff.mp hselects
  have hstored : b.store.kind? r.id = some r.isFile := by
    rw [store_eq hs, Store.kind?, hsound.row?_of_mem hr, Option.map_some]
  refine ⟨hactive, fun isFile hf hact => ?_, fun isFile hf hact => ?_, fun mime hf => ?_, fun name hf => ?_⟩
  · rw [Row.record_isFile_of_active hact]
    exact hkind isFile hf
  · refine ⟨Row.record_isFile_of_retired hact, h.exists_lastPut hstored, fun x hx => ?_⟩
    exact (Option.some.inj (hx.kind?.symm.trans hstored)).trans (hkind isFile hf)
  · obtain ⟨name, mime', size, -, hmime', hbody⟩ :=
      Row.body_of_named (hsound.check r hr) (.inl (by simp [hmime mime hf]))
    obtain rfl : mime' = mime := Option.some.inj (hmime'.symm.trans (hmime mime hf))
    exact ⟨name, size, hbody⟩
  · obtain ⟨name', mime, size, hname', -, hbody⟩ :=
      Row.body_of_named (hsound.check r hr) (.inr (by simp [hname name hf]))
    obtain rfl : name' = name := Option.some.inj (hname'.symm.trans (hname name hf))
    exact ⟨mime, size, hbody⟩

/-- In every reachable state with tables, a listing answers, for every filter, limit and position. Each record is of an
active slot unless others are asked for. If it is, it is of the kind that is asked for; if not, it shows no file, and
the payload that was written there last was of that kind. And each record is a file with the media type and with the
name that are asked for. -/
theorem listed_records_fit (h : b.Reachable) (hs : b.database = .ready s) (n : Nat) (f : Filter) (position : Position) :
    ∃ records, (Board.list n f position).on b = (.ok records, b) ∧ ∀ q ∈ records, b.Fits f q := by
  have hsound := h.sound hs
  have hcreated := h.created
  rw [store_eq hs] at hcreated
  refine ⟨_, on_list hs, fun q hq => ?_⟩
  rw [list_eq_cut hsound.nodup fun r hr => (hcreated r hr).imp fun _ => And.right, Position.cut] at hq
  obtain ⟨r, hr, hselects, rfl⟩ :=
    mem_listing.mp (List.mem_of_mem_filter (List.mem_of_mem_drop (List.mem_of_mem_take hq)))
  exact h.fits hs hr hselects

/-- Two files, of which the first is deleted. -/
def deletedFile : Board := (fresh counting).after [(.of 2, .insert (.file ⟨"a", "image/png", ByteArray.empty⟩)),
  (.of 2, .insert (.file ⟨"b", "image/png", ByteArray.empty⟩)), (.of 2, .delete 1)]

theorem deletedFile_ready : deletedFile.database = .ready {
    slots := [(fill 1000 (.file ⟨"a", "image/png", ByteArray.empty⟩) (.fresh 1)).retired,
      fill 1001 (.file ⟨"b", "image/png", ByteArray.empty⟩) (.fresh 2)]
    index := some { entries := [], faults := 0 } } := by
  cbv

/-- All files are asked for, and those that are not active any more. -/
theorem list_deletedFile : (Board.list 10 { includeInactive := true, isFile := some true } (.offset 0)).on deletedFile =
    (.ok [⟨2, .file "b" "image/png" 0, 1001, none, 0, true⟩, ⟨1, .empty, 1000, none, 0, false⟩], deletedFile) := by
  rw [on_list deletedFile_ready]
  refine Prod.ext ?_ rfl
  cbv

/-- The deleted file is listed among the files: what was written there last was a file. -/
theorem listed_records_fit_deleted : deletedFile.Reachable ∧ ∃ records,
    (Board.list 10 { includeInactive := true, isFile := some true } (.offset 0)).on deletedFile =
      (.ok records, deletedFile) ∧
    records.map (·.isFile) = [true, false] ∧ (∃ x, deletedFile.LastPut 1 x) ∧
    ∀ x, deletedFile.LastPut 1 x → x.isFile = true := by
  have hreachable : deletedFile.Reachable := (fresh_reachable counting).after _
  obtain ⟨records, hlist, hfits⟩ := listed_records_fit hreachable deletedFile_ready 10
    { includeInactive := true, isFile := some true } (.offset 0)
  cases list_deletedFile.symm.trans hlist
  exact ⟨hreachable, _, hlist, rfl,
    ((hfits _ (List.mem_cons_of_mem _ (List.mem_singleton_self _))).retired true rfl rfl).2⟩

/-- A record of a listing of files shows no file. -/
theorem deleted_file_is_listed : deletedFile.Reachable ∧ ∃ records q,
    (Board.list 10 { includeInactive := true, isFile := some true } (.offset 0)).on deletedFile =
      (.ok records, deletedFile) ∧
    q ∈ records ∧ q.isFile = false :=
  ⟨(fresh_reachable counting).after _, _, _, list_deletedFile, List.mem_cons_of_mem _ (List.mem_singleton_self _), rfl⟩

end Pasteboard
