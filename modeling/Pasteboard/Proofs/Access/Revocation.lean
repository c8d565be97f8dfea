import Pasteboard.Proofs.Api.Revoking
import Pasteboard.Proofs.Log.Attribution
/-!
Keys that were disabled or deleted.

A key that is stored and not enabled becomes so again only by a step that enables its id while it is there, and one that
is gone does not come back, since keys are issued with fresh secrets. An id is given out again, but with another secret,
and it is secrets that the gate goes by.
-/

namespace Pasteboard
open Board Store

variable {b : Board} {id : Int} {k j : Issuance} {s t : Store} {P : Issuance → Prop}

/-! ### One step -/

namespace Step
variable {step : Step}

/-- A step enables the key with an id. -/
def Enables (b : Board) (id : Int) : Step → Prop
  | .access call => call.Enables id
  | .request s r => Api.Switches s r b id true
  | .command _ line => line.Does (.switchKey id true)
  | _ => False

/-- A step disables or deletes the key with an id. -/
def Revokes (b : Board) (id : Int) : Step → Prop
  | .access call => call.Revokes id
  | .request s r => Api.Switches s r b id false ∨ Api.Achieves s r b "DELETE" id
  | .command _ line => ∃ task, line.Does task ∧ task.Revokes id
  | _ => False

/-- A key that is live after a step was so before, has an id that the step enables, or is new. -/
theorem live (step : Step) (hlive : (step.on b).store.Live k) :
    b.store.Live k ∨ step.Enables b k.id ∨ k ∉ b.store.issuances := by
  cases step with
  | slots c call => exact Or.inl (hlive.of_keys (call.keys_eq c b))
  | access call =>
    have htended : b.store.Tended call.Enables (∀ id, call ≠ .deleteKey id) (call.on b).store := by
      refine call.tended (fun _ h => h) ?_ ?_ b
      · rintro role label enabled rfl id h
        cases h
      · rintro id rfl h
        exact h id rfl
    exact htended.live k hlive
  | tables fullText =>
    obtain ⟨index, -, hcreate⟩ := on_createTables fullText b
    rw [on, hcreate] at hlive
    exact Or.inl (hlive.of_keys rfl)
  | request s r => exact (Api.serve_tended s r b).live k hlive
  | command s line => exact (line.run_tended s b).live k hlive

theorem Revokes.shuts (h : step.Revokes b id) : (step.on b).store.Shut id := by
  cases step with
  | slots | tables => cases h
  | access call => exact AccessCall.shuts h b
  | request s r =>
    rcases h with h | h
    · exact h.shuts
    · exact h.deletes
  | command s line =>
    obtain ⟨task, hdoes, htask⟩ := h
    rw [on, hdoes.run]
    exact htask.shuts b

end Step

/-! ### Runs -/

/-- Whatever becomes of a store in a step, at most one key is new. -/
theorem Store.Moved.new_unique (h : s.Moved P t) (hj : j ∈ t.issuances) (hj' : j ∉ s.issuances) (hk : k ∈ t.issuances)
    (hk' : k ∉ s.issuances) : j = k := by
  cases h with
  | kept h => exact absurd (h.issuances ▸ hj) hj'
  | logged hkeys => exact absurd (hkeys ▸ hj) hj'
  | @issued new _ hkeys =>
    have hnew : ∀ i ∈ t.issuances, i ∉ s.issuances → i = new := by
      intro i hi hi'
      rw [hkeys] at hi
      exact List.mem_singleton.mp ((List.mem_append.mp hi).resolve_left hi')
    rw [hnew j hj hj', hnew k hk hk']
  | deleted _ hkeys => exact absurd (List.mem_of_mem_filter (hkeys ▸ hj)) hj'

namespace Board

/-- The board after the first `n` steps of a run. -/
def upTo (b : Board) (run : List Step) (n : Nat) : Board := (run.take n).foldl Step.on b

/-- Every key that a step of a run issues has a secret that no key has had before. -/
def IssuesFresh (b : Board) (run : List Step) : Prop :=
  ∀ n < run.length, ∀ k ∈ (b.moment run (n + 1)).issuances, k ∉ (b.moment run n).issuances →
    ∀ m ≤ n, ∀ j ∈ (b.moment run m).issuances, j.secret ≠ k.secret

variable {b₀ : Board} {run : List Step} {step : Step} {m n : Nat}

/-- A secret is that of one key only, whenever the key was there. -/
theorem IssuesFresh.injective (hfresh : b₀.IssuesFresh run) (h₀ : ∀ s, b₀.database ≠ .ready s) (hmn : m ≤ n)
    (hn : n ≤ run.length) (hj : j ∈ (b₀.moment run m).issuances) (hk : k ∈ (b₀.moment run n).issuances)
    (hsecret : j.secret = k.secret) : j = k := by
  induction n generalizing m j k with
  | zero =>
    have hempty : b₀.moment run 0 = {} := store_unready h₀
    rw [hempty] at hk
    cases hk
  | succ n ih =>
    have hn' : n ≤ run.length := Nat.le_of_succ_le hn
    have hstep : run[n]? = some run[n] := List.getElem?_eq_getElem hn
    have hmoved := moment_moved hstep (attributed h₀ run hn').distinct
    rcases Nat.le_or_eq_of_le_succ hmn with hmn | rfl
    · by_cases hold : k ∈ (b₀.moment run n).issuances
      · exact ih hmn hn' hj hold hsecret
      · exact absurd hsecret (hfresh n hn k hk hold m hmn j hj)
    · -- Both are there now; each may be the new one.
      by_cases hj' : j ∈ (b₀.moment run n).issuances <;> by_cases hk' : k ∈ (b₀.moment run n).issuances
      · exact ih (Nat.le_refl n) hn' hj' hk' hsecret
      · exact absurd hsecret (hfresh n hn k hk hk' n (Nat.le_refl n) j hj')
      · exact absurd hsecret.symm (hfresh n hn j hj hj' n (Nat.le_refl n) k hk')
      · exact hmoved.new_unique hj hj' hk hk'

/-- A key that is not live stays so until it is enabled. -/
theorem IssuesFresh.not_live (hfresh : b₀.IssuesFresh run) {first : Nat} (hk : k ∈ (b₀.moment run first).issuances)
    (hfirst : first ≤ m) (hmn : m ≤ n) (hn : n ≤ run.length) (hgone : ¬(b₀.moment run m).Live k)
    (huntil : ∀ i step, m ≤ i → i < n → run[i]? = some step → k ∈ (b₀.moment run i).issuances →
      ¬step.Enables (b₀.upTo run i) k.id) : ¬(b₀.moment run n).Live k := by
  induction n, hmn using Nat.le_induction with
  | base => exact hgone
  | succ n hmn ih =>
    intro hlive
    have hstep : run[n]? = some run[n] := List.getElem?_eq_getElem hn
    by_cases hstored : k ∈ (b₀.moment run n).issuances
    · rw [moment_succ hstep] at hlive
      rcases run[n].live hlive with hlive | henables | hnew
      · exact ih (Nat.le_of_succ_le hn) (fun i step hi hin => huntil i step hi (Nat.lt_succ_of_lt hin)) hlive
      · exact huntil n _ hmn (Nat.lt_succ_self n) hstep hstored henables
      · exact hnew hstored
    · -- It would be issued once more, with a secret that it has had.
      exact hfresh n hn k hlive.stored hstored first (hfirst.trans hmn) k hk rfl

end Board

/-- In every run from a board without tables, in which every key is issued with a secret that no key has had before: a
step that disables or deletes a key leaves it not enabled, whatever surface it is made through. From a moment when a key
that was stored is not enabled, be it disabled or deleted, until a step enables its id while it is there: whoever passes
the gate as a key passes as another one that is stored and enabled and whose secret it presents, and not under the id of
this one while it is there; its secret is that of no enabled key; and where there are keys, who presents it is turned
away as unknown unless there is no authentication, the caller reads on this machine, or its address is on a list. -/
theorem revoked_keys_stay_out {b₀ : Board} (h₀ : ∀ s, b₀.database ≠ .ready s) {run : List Step}
    (hfresh : b₀.IssuesFresh run) {k : Issuance} {first : Nat} (hk : k ∈ (b₀.moment run first).issuances) :
    (∀ step, run[first]? = some step → step.Revokes (b₀.upTo run first) k.id → ¬(b₀.moment run (first + 1)).Live k) ∧
    ∀ gone last, first ≤ gone → gone ≤ last → last ≤ run.length → ¬(b₀.moment run gone).Live k →
      (∀ n step, gone ≤ n → n < last → run[n]? = some step → k ∈ (b₀.moment run n).issuances →
        ¬step.Enables (b₀.upTo run n) k.id) →
      (∀ s c visitor b', (Gate.evaluate s c).on (b₀.upTo run last) = (.ok (.pass visitor), b') →
        ∀ id, visitor.keyId = some id → ∃ key ∈ (b₀.moment run last).keys, key.id = id ∧ key.enabled = true ∧
          c.key = some key.secret ∧ key.secret ≠ k.secret ∧ (k ∈ (b₀.moment run last).issuances → id ≠ k.id)) ∧
      (b₀.moment run last).findKey k.secret = none ∧
      ∀ (s : Settings) (c : Gate.Caller), c.key = some k.secret → (b₀.moment run last).keys ≠ [] → s.noAuth = false →
        ¬(s.allowLocalhost = true ∧ Gate.isRead c.method c.path = true ∧ Net.isLoopback c.clientIp = true) →
        (∀ list, Net.matchesAny ((b₀.moment run last).enabledCidrs list) c.clientIp = false) →
        (Gate.evaluate s c).on (b₀.upTo run last) = (.ok (.deny .unknownKey), b₀.upTo run last) := by
  refine ⟨fun step hstep hrevokes => ?_, fun gone last hfirst hgone hlast hdead huntil => ?_⟩
  · rw [moment_succ hstep]
    exact hrevokes.shuts.not_live
  have hnot := hfresh.not_live hk hfirst hgone hlast hdead huntil
  -- An enabled key with the secret would be this key.
  have hother : ∀ key ∈ (b₀.moment run last).keys, key.enabled = true → key.secret ≠ k.secret := by
    intro key hkey henabled hsecret
    have hsame := hfresh.injective h₀ (hfirst.trans hgone) hlast hk (List.mem_map_of_mem hkey) hsecret.symm
    exact hnot ⟨key, hkey, hsame.symm, henabled⟩
  have hunknown : (b₀.moment run last).findKey k.secret = none := by
    by_contra hfound
    obtain ⟨key, hfound⟩ := Option.ne_none_iff_exists'.mp hfound
    obtain ⟨hkey, hsecret, henabled⟩ := findKey_eq_some hfound
    exact hother key hkey henabled hsecret
  refine ⟨fun s c visitor b' hpass id hid => ?_, hunknown, fun s c hkey hkeys noAuth hlocal hlists => ?_⟩
  · obtain ⟨key, hkey, rfl, henabled, hpresented⟩ := (Gate.passes_of_pass hpass hid).presented
    have hsecret := hother key hkey henabled
    refine ⟨key, hkey, rfl, henabled, hpresented, hsecret, fun hstored hid => hsecret ?_⟩
    have hsame : key.issuance = k :=
      List.inj_on_of_nodup_map (attributed h₀ run hlast).distinct (List.mem_map_of_mem hkey) hstored hid
    rw [← hsame]
    rfl
  · by_cases hready : ∃ st, (b₀.upTo run last).database = .ready st
    · obtain ⟨st, hst⟩ := hready
      have hstore : b₀.moment run last = st := store_eq hst
      rw [hstore] at hlists hkeys hunknown
      exact Gate.evaluate_unknown hst noAuth hlocal hlists hkeys hkey hunknown
    · have hempty : b₀.moment run last = {} := store_unready (not_exists.mp hready)
      rw [hempty] at hkeys
      exact absurd rfl hkeys

/-- A request of an admin to disable the second key. -/
def disabling : Http.Request where
  method := "PATCH"
  target := ⟨"/admin/keys", some "id=2&api_key=first"⟩
  headers := [Http.Header.of "content-type" "application/json"]
  body := "\x7b\"enabled\":false\x7d".toUTF8
  peer := .v4 (.ofOctets 203 0 113 9)

/-- A key is disabled by a request, gets another role, and is deleted; its id goes to another key, and is enabled. -/
def revocation : List Step := [.tables false, .access (.issueKey .admin none true),
  .access (.issueKey .write none true), .request plainSettings disabling, .access (.setRole 2 .admin),
  .command plainSettings ⟨{}, false, some (.removeKey 2 true)⟩, .access (.issueKey .write none true),
  .command plainSettings ⟨{}, false, some (.switchKey 2 true)⟩]

/-- A board without tables, for three keys. -/
def threeSecrets : Board :=
  ⟨.blank, counting, ⟨fun n => if n = 0 then "first" else if n = 1 then "second" else "third", 0⟩⟩

/-- The second key, as it is issued. -/
def secondKey : Issuance := ⟨2, "second", 1001⟩

theorem eq_ok_of_toOption {ε α : Type} {x : Except ε α} {a : α} (h : x.toOption = some a) : x = .ok a := by
  cases x <;> cases h
  rfl

theorem disabling_revokes : Api.Switches plainSettings disabling (threeSecrets.upTo revocation 3) 2 false := by
  have hid : (Api.requiredId disabling.target.params).toOption = some 2 := by decide +kernel
  have hfields : (Api.KeyFields.read plainSettings disabling).toOption.map (·.enabled) = some (some false) := by
    decide +kernel
  obtain ⟨fields, hfields, henabled⟩ := Option.map_eq_some_iff.mp hfields
  have hachieves : Api.Achieves plainSettings disabling (threeSecrets.upTo revocation 3) "PATCH" 2 :=
    ⟨by decide +kernel, rfl, eq_ok_of_toOption hid, by decide +kernel⟩
  exact ⟨hachieves, fields, eq_ok_of_toOption hfields, henabled⟩

/-- The second key is turned away although its id is that of an enabled key. -/
theorem revoked_keys_stay_out_renumbered :
    (threeSecrets.moment revocation 3).Live secondKey ∧ ¬(threeSecrets.moment revocation 4).Live secondKey ∧
    (threeSecrets.moment revocation 8).keys.map (fun key => (key.id, key.secret, key.enabled)) =
      [(1, "first", true), (2, "third", true)] ∧
    (Gate.evaluate plainSettings ⟨"GET", "/", some "second", "203.0.113.9"⟩).on (threeSecrets.upTo revocation 8) =
      (.ok (.deny .unknownKey), threeSecrets.upTo revocation 8) := by
  have hfresh : threeSecrets.IssuesFresh revocation := by unfold IssuesFresh; decide +kernel
  have hk : secondKey ∈ (threeSecrets.moment revocation 3).issuances := by decide +kernel
  obtain ⟨hrevokes, hstays⟩ := revoked_keys_stay_out (fun _ h => by cases h) hfresh hk
  have hdead := hrevokes _ rfl (Or.inl disabling_revokes)
  have hlater : secondKey ∉ (threeSecrets.moment revocation 7).issuances := by decide +kernel
  obtain ⟨-, -, hturned⟩ := hstays 4 8 (by decide) (by decide) (by decide) hdead (by
    intro n step hgone hlast hstep hstored henables
    interval_cases n <;> cases hstep
    · cases henables
    · cases henables.task
    · cases henables
    · exact hlater hstored)
  refine ⟨?_, hdead, by decide +kernel, hturned _ _ rfl (by decide +kernel) rfl (fun h => by cases h.1) fun list => ?_⟩
  · unfold Live
    decide +kernel
  · cases list <;> decide +kernel

end Pasteboard
