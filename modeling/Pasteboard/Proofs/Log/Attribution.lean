import Pasteboard.Proofs.Api.Disguise
import Pasteboard.Proofs.Api.Keys
import Pasteboard.Proofs.Command.Keys
/-!
The key that a replacement was made under.

The id of a deleted key is given out again, so an id alone does not tell which key is meant. But a key that is deleted
is taken out of the log, so the key that an entry names has been there without a break since the replacement was made,
and it is the key under which it was made.
-/

namespace Pasteboard
open Board Store

/-- A step of a run: a call on slots, an operation on keys or rules, the tables are made, a request, a command line. -/
inductive Step
  | slots (c : Capacity) (call : SlotCall)
  | access (call : AccessCall)
  | tables (fullText : Bool)
  | request (s : Settings) (r : Http.Request)
  | command (s : Settings) (line : Command.Line)

namespace Step

/-- The board after a step. -/
def on (b : Board) : Step → Board
  | .slots c call => ((call.perform c).on b).2
  | .access call => call.on b
  | .tables fullText => ((createTables fullText).on b).2
  | .request s r => (b.serve s r).2
  | .command s line => (b.run (line.run s)).2

/-- A step is made under a key: a replacement by its id, a request by its secret. -/
def Under (k : Issuance) : Step → Prop
  | .slots _ (.rewrite _ _ actor) => actor.keyId = some k.id
  | .request s r => (Api.callerOf s r).key = some k.secret
  | _ => False

end Step

/-- The data after the first `n` steps of a run. -/
def Board.moment (b : Board) (run : List Step) (n : Nat) : Store := ((run.take n).foldl Step.on b).store

variable {b : Board} {P : Issuance → Prop} {s t : Store} {k : Issuance} {moment : Nat → Store}
  {under : Nat → Issuance → Prop} {n first : Nat}

/-! ### One step -/

/-- Every step does to keys and log what an operation does. -/
theorem Step.moved (step : Step) (hids : (b.store.issuances.map (·.id)).Nodup) :
    b.store.Moved (fun k => step.Under k) (step.on b).store := by
  cases step with
  | slots c call =>
    cases call with
    | insert x => exact (Api.moved_of_kept allocate_kept).report _ b
    | rewrite id how actor =>
      obtain ⟨table, hperform⟩ := perform_eq c id actor how
      have hmoves : Moves (Moved fun k => actor.keyId = some k.id) ((SlotCall.rewrite id how actor).perform c) := by
        rw [SlotCall.perform, hperform]
        exact .report (replace_moved _) _
      exact hmoves b
    | delete id => exact (Api.moved_of_kept delete_kept).report _ b
  | access call => exact (call.accessed b).moved
  | tables fullText => exact .kept (createTables_kept fullText b)
  | request s r => exact serve_moved s r hids
  | command s line => exact line.run_moved s b

/-- A key that is lost is taken out of the log, and no other column of the log is touched. -/
theorem Store.Moved.lost (h : s.Moved P t) (hk : k ∈ s.issuances) (hlost : k ∉ t.issuances) :
    t.issuances = s.issuances.filter (·.id != k.id) ∧ t.log = s.log.map (LogEntry.forget k.id) := by
  cases h with
  | kept h => exact absurd (h.issuances ▸ hk) hlost
  | logged hkeys => exact absurd (hkeys ▸ hk) hlost
  | issued _ hkeys => exact absurd (hkeys ▸ List.mem_append_left _ hk) hlost
  | @deleted id _ hkeys hlog =>
    have hid : k.id = id := by
      by_contra hne
      exact hlost (hkeys ▸ List.mem_filter.mpr ⟨hk, by simpa using hne⟩)
    rw [hid]
    exact ⟨hkeys, hlog⟩

/-! ### Runs -/

/-- A key is there from one moment to another. -/
def Issuance.Lasts (moment : Nat → Store) (k : Issuance) (first last : Nat) : Prop :=
  ∀ m, first ≤ m → m ≤ last → k ∈ (moment m).issuances

theorem Issuance.Lasts.succ (h : k.Lasts moment first n) (hk : k ∈ (moment (n + 1)).issuances) :
    k.Lasts moment first (n + 1) := by
  intro m hfirst hm
  rcases Nat.le_or_eq_of_le_succ hm with hm | rfl
  · exact h m hfirst hm
  · exact hk

/-- At a moment of a run: no two keys share an id, every key has been there since it was issued, and an entry that names
a key was made under it, and the key has been there since. -/
structure Attributed (under : Nat → Issuance → Prop) (moment : Nat → Store) (n : Nat) : Prop where
  distinct : ((moment n).issuances.map (·.id)).Nodup
  born : ∀ k ∈ (moment n).issuances, ∃ issue < n, (∀ j ∈ (moment issue).issuances, j.id ≠ k.id) ∧
    k.Lasts moment (issue + 1) n
  made : ∀ e ∈ (moment n).log, ∀ id, e.byKeyId = some id → ∃ k : Issuance, k.id = id ∧ ∃ made < n,
    (moment (made + 1)).log = (moment made).log ++ [e] ∧ under made k ∧ k.Lasts moment made n

namespace Attributed

/-- What was made under a key stays so while the key is there. -/
theorem made_succ (h : Attributed under moment n) {e : LogEntry} (he : e ∈ (moment n).log) {id : Int}
    (hid : e.byKeyId = some id)
    (hkept : ∀ k ∈ (moment n).issuances, k.id = id → k ∈ (moment (n + 1)).issuances) :
    ∃ k : Issuance, k.id = id ∧ ∃ made < n + 1,
      (moment (made + 1)).log = (moment made).log ++ [e] ∧ under made k ∧ k.Lasts moment made (n + 1) := by
  obtain ⟨k, hk, made, hmade, hlog, hunder, hlasts⟩ := h.made e he id hid
  exact ⟨k, hk, made, Nat.lt_succ_of_lt hmade, hlog, hunder,
    hlasts.succ (hkept k (hlasts n hmade.le (le_refl n)) hk)⟩

theorem born_succ (h : Attributed under moment n) (hk : k ∈ (moment n).issuances)
    (hk' : k ∈ (moment (n + 1)).issuances) :
    ∃ issue < n + 1, (∀ j ∈ (moment issue).issuances, j.id ≠ k.id) ∧ k.Lasts moment (issue + 1) (n + 1) := by
  obtain ⟨issue, hissue, hfresh, hlasts⟩ := h.born k hk
  exact ⟨issue, Nat.lt_succ_of_lt hissue, hfresh, hlasts.succ hk'⟩

theorem succ (h : Attributed under moment n) (hmoved : (moment n).Moved (under n) (moment (n + 1))) :
    Attributed under moment (n + 1) := by
  cases hmoved with
  | kept hkept =>
    have hkeys := hkept.issuances
    refine ⟨hkeys ▸ h.distinct, fun k hk => h.born_succ (hkeys ▸ hk) hk, fun e he id hid => ?_⟩
    exact h.made_succ (hkept.log ▸ he) hid fun k hk _ => hkeys ▸ hk
  | @logged e hkeys hlog hmade =>
    refine ⟨hkeys ▸ h.distinct, fun k hk => h.born_succ (hkeys ▸ hk) hk, fun d hd id hid => ?_⟩
    rw [hlog] at hd
    rcases List.mem_append.mp hd with hd | hd
    · exact h.made_succ hd hid fun k hk _ => hkeys ▸ hk
    · -- The new entry names the key that the step is made under, which is there now and after the step.
      obtain rfl := List.mem_singleton.mp hd
      obtain ⟨k, hk, rfl, hunder⟩ := hmade id hid
      refine ⟨k, rfl, n, Nat.lt_succ_self n, hlog, hunder, fun m hfirst hm => ?_⟩
      rcases Nat.le_or_eq_of_le_succ hm with hm | rfl
      · rw [Nat.le_antisymm hm hfirst]
        exact hk
      · exact hkeys ▸ hk
  | @issued new hfresh hkeys hlog =>
    have hold : ∀ k ∈ (moment n).issuances, k ∈ (moment (n + 1)).issuances := fun k hk =>
      hkeys ▸ List.mem_append_left _ hk
    refine ⟨?_, fun k hk => ?_, fun e he id hid => h.made_succ (hlog ▸ he) hid fun k hk _ => hold k hk⟩
    · rw [hkeys, List.map_append]
      refine List.nodup_append.mpr ⟨h.distinct, List.nodup_singleton _, ?_⟩
      rintro _ hid _ hnew rfl
      obtain ⟨j, hj, hjid⟩ := List.mem_map.mp hid
      exact hfresh j hj (hjid.trans (List.mem_singleton.mp hnew))
    · rw [hkeys] at hk
      rcases List.mem_append.mp hk with hk | hk
      · exact h.born_succ hk (hold k hk)
      · obtain rfl := List.mem_singleton.mp hk
        refine ⟨n, Nat.lt_succ_self n, hfresh, fun m hfirst hm => ?_⟩
        rw [Nat.le_antisymm hm hfirst, hkeys]
        exact List.mem_append_right _ (List.mem_singleton_self _)
  | @deleted gone _ hkeys hlog =>
    have hmem : ∀ k, k ∈ (moment (n + 1)).issuances ↔ k ∈ (moment n).issuances ∧ k.id ≠ gone := fun k => by
      rw [hkeys, List.mem_filter, bne_iff_ne]
    refine ⟨?_, fun k hk => h.born_succ ((hmem k).mp hk).1 hk, fun e he id hid => ?_⟩
    · rw [hkeys]
      exact h.distinct.sublist (List.filter_sublist.map _)
    · -- An entry that still names a key is as it was, and names another key than the one that is gone.
      rw [hlog] at he
      obtain ⟨d, hd, rfl⟩ := List.mem_map.mp he
      obtain ⟨hne, hsame, hid⟩ := LogEntry.forget_byKeyId hid
      rw [hsame]
      exact h.made_succ hd hid fun k hk hkid => (hmem k).mpr ⟨hk, hkid ▸ hne⟩

end Attributed

namespace Board
variable {b₀ : Board} {run : List Step} {step : Step}

theorem moment_succ (hstep : run[n]? = some step) :
    b.moment run (n + 1) = (step.on ((run.take n).foldl Step.on b)).store := by
  rw [moment, List.take_add_one, hstep, List.foldl_append]
  rfl

theorem moment_moved (hstep : run[n]? = some step) (hids : ((b.moment run n).issuances.map (·.id)).Nodup) :
    (b.moment run n).Moved (fun k => step.Under k) (b.moment run (n + 1)) := by
  rw [moment_succ hstep]
  exact step.moved hids

theorem attributed (h₀ : ∀ s, b₀.database ≠ .ready s) (run : List Step) (hn : n ≤ run.length) :
    Attributed (fun n k => ∃ step, run[n]? = some step ∧ step.Under k) (b₀.moment run) n := by
  induction n with
  | zero =>
    have hempty : b₀.moment run 0 = {} := store_unready h₀
    refine ⟨?_, fun k hk => ?_, fun e he => ?_⟩
    · rw [hempty]
      exact List.nodup_nil
    · rw [hempty] at hk
      cases hk
    · rw [hempty] at he
      cases he
  | succ n ih =>
    have h := ih (Nat.le_of_succ_le hn)
    have hstep : run[n]? = some run[n] := List.getElem?_eq_getElem hn
    exact h.succ ((moment_moved hstep h.distinct).mono fun k _ hunder => ⟨_, hstep, hunder⟩)

end Board

/-- In every run of replacements, operations on keys, requests and command lines from a board without tables: an entry
of the log that names a key names the one stored key with this id, which was issued at a step of the run when no key had
the id, has been there ever since, and is the key under which a later step made the replacement and appended the entry.
Every step leaves keys and log, appends an entry, issues a key, or deletes one; and where a key is lost, exactly the
entries that name it name no key any more, and no other column of the log changes. -/
theorem entries_name_the_very_key {b₀ : Board} (h₀ : ∀ s, b₀.database ≠ .ready s) (run : List Step) :
    (∀ e ∈ (b₀.moment run run.length).log, ∀ id, e.byKeyId = some id →
      ∃ key ∈ (b₀.moment run run.length).keys, key.id = id ∧
        (∀ other ∈ (b₀.moment run run.length).keys, other.id = id → other = key) ∧
        ∃ issue made step, issue < made ∧ run[made]? = some step ∧ step.Under key.issuance ∧
          (b₀.moment run (made + 1)).log = (b₀.moment run made).log ++ [e] ∧
          (∀ other ∈ (b₀.moment run issue).keys, other.id ≠ id) ∧
          ∀ n, issue < n → n ≤ run.length → key.issuance ∈ (b₀.moment run n).issuances) ∧
    ∀ n step, run[n]? = some step →
      (b₀.moment run n).Moved (fun k => step.Under k) (b₀.moment run (n + 1)) ∧
      ∀ k ∈ (b₀.moment run n).issuances, k ∉ (b₀.moment run (n + 1)).issuances →
        (b₀.moment run (n + 1)).issuances = (b₀.moment run n).issuances.filter (·.id != k.id) ∧
        (b₀.moment run (n + 1)).log = (b₀.moment run n).log.map (LogEntry.forget k.id) := by
  refine ⟨fun e he id hid => ?_, fun n step hstep => ?_⟩
  · have h := attributed h₀ run (le_refl run.length)
    obtain ⟨k, rfl, made, hmade, hlog, ⟨step, hstep, hunder⟩, hlasts⟩ := h.made e he id hid
    have hk : k ∈ (b₀.moment run run.length).issuances := hlasts _ hmade.le (le_refl _)
    obtain ⟨issue, hend, hfresh, hsince⟩ := h.born k hk
    have hissue : issue < made := by
      by_contra hle
      exact hfresh k (hlasts issue (not_lt.mp hle) hend.le) rfl
    obtain ⟨key, hkey, rfl⟩ := List.mem_map.mp hk
    have hids := h.distinct
    rw [issuances, List.map_map] at hids
    refine ⟨key, hkey, rfl, fun other hother heq => List.inj_on_of_nodup_map hids hother hkey heq, issue, made, step,
      hissue, hstep, hunder, hlog, fun other hother => ?_, hsince⟩
    exact hfresh other.issuance (List.mem_map_of_mem hother)
  · have hn : n < run.length := (List.getElem?_eq_some_iff.mp hstep).1
    have hmoved := moment_moved hstep (attributed h₀ run hn.le).distinct
    exact ⟨hmoved, fun k hk hlost => hmoved.lost hk hlost⟩

/-- A restoration that is asked for with the second key. -/
def restoration : Http.Request where
  method := "POST"
  target := ⟨"/restore", some "id=1&api_key=second"⟩
  headers := []
  body := ByteArray.empty
  peer := .v4 (.ofOctets 203 0 113 9)

/-- A text is replaced under a key, the key is deleted by a command, its id goes to another key, and the text is
restored by a request with that. -/
def reissue : List Step := [.tables false, .access (.issueKey .write none true), .slots (.of 2) (.insert (.text "a")),
  .slots (.of 2) (.rewrite 1 (.update (.text "b")) { keyId := some 1 }),
  .command plainSettings ⟨{}, false, some (.removeKey 1 true)⟩, .access (.issueKey .write none true),
  .request plainSettings restoration]

/-- A board without tables, for two keys. -/
def twoSecrets : Board := ⟨.blank, counting, ⟨fun n => if n = 0 then "first" else "second", 0⟩⟩

/-- The first entry named the id for the first key and names none now; the second names it for the second key. -/
theorem entries_name_the_very_key_reissued : ∃ first second key made step,
    (twoSecrets.moment reissue 4).log.map (·.byKeyId) = [some 1] ∧
    (twoSecrets.moment reissue 4).issuances = [⟨1, "first", 1000⟩] ∧
    (twoSecrets.moment reissue 7).log = [first, second] ∧ first.byKeyId = none ∧ second.byKeyId = some 1 ∧
    key ∈ (twoSecrets.moment reissue 7).keys ∧ key.id = 1 ∧ key.secret = "second" ∧
    reissue[made]? = some step ∧ step.Under key.issuance ∧
    (twoSecrets.moment reissue (made + 1)).log = (twoSecrets.moment reissue made).log ++ [second] := by
  have hnames : (twoSecrets.moment reissue 7).log.map (·.byKeyId) = [none, some 1] := by decide +kernel
  have hsecrets : (twoSecrets.moment reissue 7).keys.map (·.secret) = ["second"] := by decide +kernel
  obtain ⟨first, rest, hlog, hfirst, hrest⟩ := List.map_eq_cons_iff.mp hnames
  obtain ⟨second, rest, rfl, hsecond, hrest⟩ := List.map_eq_cons_iff.mp hrest
  obtain rfl := List.map_eq_nil_iff.mp hrest
  have hmem : second ∈ (twoSecrets.moment reissue 7).log := hlog ▸ List.mem_cons_of_mem _ List.mem_cons_self
  obtain ⟨key, hkey, hid, -, -, made, step, -, hstep, hunder, happended, -⟩ :=
    (entries_name_the_very_key (fun _ h => by cases h) reissue).1 second hmem 1 hsecond
  have hsecret : key.secret ∈ ["second"] := hsecrets ▸ List.mem_map_of_mem hkey
  exact ⟨first, second, key, made, step, by decide +kernel, by decide +kernel, hlog, hfirst, hsecond, hkey, hid,
    List.mem_singleton.mp hsecret, hstep, hunder, happended⟩

end Pasteboard
