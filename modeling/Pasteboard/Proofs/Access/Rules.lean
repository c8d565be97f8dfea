import Pasteboard.Board.Access
import Pasteboard.Proofs.Net.Cidr
import Pasteboard.Proofs.Slots.Calls
/-!
Address rules mean what was typed.

A list keeps one rule for each text that was accepted and not removed since, under its normal text. So an address is
matched by a list if and only if one of those texts covers it, and a text is refused as a conflict if and only if one of
them covers the same addresses. The other list has no part in this.
-/

namespace Pasteboard
open Board Net

/-- A call on one of the two lists of rules. -/
inductive RuleCall
  | add (list : RuleList) (text : String)
  | remove (list : RuleList) (id : Int)

/-- A text that was accepted, and the id of the rule that was made of it. -/
structure Typed where
  id : Int
  text : String
  deriving DecidableEq

namespace RuleCall

/-- The list that a call is about. -/
def list : RuleCall → RuleList
  | .add list _ => list
  | .remove list _ => list

/-- The board after a call. -/
def on (b : Board) : RuleCall → Board
  | .add list text => ((addRule list text).on b).2
  | .remove list id => ((removeRule list id).on b).2

/-- What is accepted and not removed, after a call on the list: its answer decides. -/
def noted (b : Board) (typed : List Typed) : RuleCall → List Typed
  | .add list text =>
    match ((addRule list text).on b).1 with
    | .ok rule => typed ++ [⟨rule.id, text⟩]
    | .error _ => typed
  | .remove list id =>
    match ((removeRule list id).on b).1 with
    | .ok _ => typed.filter (·.id != id)
    | .error _ => typed

end RuleCall

namespace Board

/-- The board after calls on the lists of rules. -/
def ruled (b : Board) (calls : List RuleCall) : Board := calls.foldl RuleCall.on b

/-- The texts of a list that are accepted and not removed after calls. -/
def typed (list : RuleList) (b : Board) (known : List Typed) : List RuleCall → List Typed
  | [] => known
  | call :: calls => typed list (call.on b) (if call.list = list then call.noted b known else known) calls

variable {b : Board} {s : Store} {list : RuleList}

theorem on_addRule_of_error {text : String} {fault : CidrFault} (htext : normalizeCidr text = .error fault) :
    (addRule list text).on b = (.error (.refused (.cidr fault)), b) := by
  unfold addRule
  rw [htext]
  rfl

theorem on_addRule_of_ok {text block : String} (htext : normalizeCidr text = .ok block) (h : b.database = .ready s) :
    (addRule list text).on b = match s.addRule list block b.now with
      | .ok (rule, t) => (.ok rule, b.ticked.storing t)
      | .error e => (.error e, b.ticked) := by
  unfold addRule
  rw [htext]
  dsimp only
  rw [Action.on_bind_of_ok (Action.on_pure block), Action.on_bind_of_ok on_readClock, Action.on_bind,
    on_ask (b := b.ticked) h]
  cases s.addRule list block b.now <;> rfl

theorem on_removeRule {id : Int} (h : b.database = .ready s) :
    (removeRule list id).on b = match s.removeRule list id with
      | .ok t => (.ok (), b.storing t)
      | .error e => (.error e, b) := on_change h

theorem on_enabledCidrs (h : b.database = .ready s) :
    (enabledCidrs list).on b = (.ok (s.enabledCidrs list), b) := on_ask h

end Board

namespace Store
variable {s : Store} {list which : RuleList} {rules : List IpRule} {id now : Int} {block text : String}
    {typed : List Typed}

theorem rules_setRules : (s.setRules which rules).rules list = if which = list then rules else s.rules list := by
  cases which <;> cases list <;> rfl

/-- The rules of a list are those of the texts that were typed: enabled, and each under its normal text. -/
def Keeps (s : Store) (list : RuleList) (typed : List Typed) : Prop :=
  (s.rules list).map (fun r => (r.id, r.enabled, Except.ok r.cidr)) =
    typed.map fun t => (t.id, true, normalizeCidr t.text)

namespace Keeps

theorem ids (h : s.Keeps list typed) : (s.rules list).map (·.id) = typed.map (·.id) := by
  simpa [List.map_map, Function.comp_def] using congrArg (List.map (·.1)) h

theorem enabledCidrs_eq (h : s.Keeps list typed) : s.enabledCidrs list = (s.rules list).map (·.cidr) := by
  have hflags : (s.rules list).map (·.enabled) = typed.map fun _ => true := by
    simpa [List.map_map, Function.comp_def] using congrArg (List.map (·.2.1)) h
  have hall : ∀ r ∈ s.rules list, r.enabled = true := fun r hr => by
    have hmem := List.mem_map_of_mem (f := (·.enabled)) hr
    rw [hflags] at hmem
    obtain ⟨-, -, htrue⟩ := List.mem_map.mp hmem
    exact htrue.symm
  rw [enabledCidrs, List.filter_eq_self.mpr hall]

theorem cidrs (h : s.Keeps list typed) :
    ((s.rules list).map (·.cidr)).map Except.ok = typed.map fun t => normalizeCidr t.text := by
  simpa [List.map_map, Function.comp_def] using congrArg (List.map (·.2.2)) h

/-- A block is on the list if and only if it is the normal text of something that was typed. -/
theorem mem_cidrs (h : s.Keeps list typed) :
    block ∈ (s.rules list).map (·.cidr) ↔ ∃ t ∈ typed, normalizeCidr t.text = .ok block := by
  rw [← List.mem_map_of_injective (f := (Except.ok : String → Except CidrFault String))
      (fun _ _ he => Except.ok.inj he), h.cidrs, List.mem_map]

theorem normal (h : s.Keeps list typed) {t : Typed} (ht : t ∈ typed) : ∃ block, normalizeCidr t.text = .ok block := by
  have hmem : normalizeCidr t.text ∈ typed.map fun t => normalizeCidr t.text := List.mem_map.mpr ⟨t, ht, rfl⟩
  rw [← h.cidrs] at hmem
  obtain ⟨block, -, hblock⟩ := List.mem_map.mp hmem
  exact ⟨block, hblock.symm⟩

theorem append (h : s.Keeps list typed) (htext : normalizeCidr text = .ok block) :
    (s.setRules list (s.rules list ++ [⟨id, block, true, now⟩])).Keeps list (typed ++ [⟨id, text⟩]) := by
  rw [Keeps, rules_setRules, if_pos rfl, List.map_append, List.map_append, h]
  simp [htext]

theorem filter (h : s.Keeps list typed) (id : Int) :
    (s.setRules list ((s.rules list).filter (·.id != id))).Keeps list (typed.filter (·.id != id)) := by
  have hfilter := congrArg (List.filter (·.1 != id)) h
  rw [Keeps, rules_setRules, if_pos rfl]
  simpa [List.filter_map, Function.comp_def] using hfilter

end Keeps

end Store

/-! ### One call -/

namespace Board
variable {b b' : Board} {s : Store} {list which : RuleList} {typed : List Typed} {text : String} {id : Int}

/-- A board has tables, and a list keeps the texts that were typed. -/
def Keeping (b : Board) (list : RuleList) (typed : List Typed) : Prop :=
  ∃ s, b.database = .ready s ∧ s.Keeps list typed

/-- Whether a text that is typed again would be a second rule for the same block. -/
def Known (typed : List Typed) (block : String) : Prop :=
  ∃ t ∈ typed, normalizeCidr t.text = .ok block

/-- What an addition does: it is refused for its text, it clashes with what was typed, or it makes the next rule. -/
theorem on_addRule_cases (h : b.Keeping list typed) (text : String) :
    (∃ fault, normalizeCidr text = .error fault ∧ (addRule list text).on b = (.error (.refused (.cidr fault)), b)) ∨
    (∃ block, normalizeCidr text = .ok block ∧ Known typed block ∧
      (addRule list text).on b = (.error (.conflict (.ruleExists block list)), b.ticked)) ∨
    (∃ s block rule, b.database = .ready s ∧ normalizeCidr text = .ok block ∧ ¬Known typed block ∧
      rule = ⟨nextId (typed.map (·.id)), block, true, b.now⟩ ∧
      (addRule list text).on b = (.ok rule, b.ticked.storing (s.setRules list (s.rules list ++ [rule])))) := by
  obtain ⟨s, hs, hkeeps⟩ := h
  cases htext : normalizeCidr text with
  | error fault => exact .inl ⟨fault, rfl, on_addRule_of_error htext⟩
  | ok block =>
    have hknown : (s.rules list).any (·.cidr == block) = true ↔ Known typed block := by
      rw [Known, ← hkeeps.mem_cidrs]
      simp
    rw [on_addRule_of_ok htext hs, Store.addRule, hkeeps.ids]
    dsimp only
    by_cases hany : (s.rules list).any (·.cidr == block) = true
    · rw [if_pos hany]
      exact .inr (.inl ⟨block, rfl, hknown.mp hany, rfl⟩)
    · rw [if_neg hany]
      exact .inr (.inr ⟨s, block, _, hs, rfl, mt hknown.mpr hany, rfl, rfl⟩)

/-- A removal takes the rule with the id away, or finds none. -/
theorem on_removeRule_cases (h : b.Keeping list typed) (id : Int) :
    ((∀ t ∈ typed, t.id ≠ id) ∧ (removeRule list id).on b = (.error .notFound, b)) ∨
    (∃ s, b.database = .ready s ∧ (∃ t ∈ typed, t.id = id) ∧
      (removeRule list id).on b = (.ok (), b.storing (s.setRules list ((s.rules list).filter (·.id != id))))) := by
  obtain ⟨s, hs, hkeeps⟩ := h
  have hid : (s.rules list).any (·.id == id) = true ↔ ∃ t ∈ typed, t.id = id := by
    have hmem : id ∈ (s.rules list).map (·.id) ↔ id ∈ typed.map (·.id) := by rw [hkeeps.ids]
    simpa using hmem
  rw [on_removeRule hs, Store.removeRule]
  by_cases hany : (s.rules list).any (·.id == id) = true
  · rw [if_pos hany]
    exact .inr ⟨s, hs, hid.mp hany, rfl⟩
  · rw [if_neg hany]
    refine .inl ⟨fun t ht he => hany (hid.mpr ⟨t, ht, he⟩), rfl⟩

theorem Keeping.keeps (h : b.Keeping list typed) (hs : b.database = .ready s) : s.Keeps list typed := by
  obtain ⟨t, ht, hkeeps⟩ := h
  rw [hs] at ht
  cases ht
  exact hkeeps

end Board

namespace RuleCall
variable {b b' : Board} {s : Store} {list : RuleList} {typed : List Typed} {call : RuleCall}

/-- A call leaves the rules of the other list as they are. -/
theorem other (hs : b.database = .ready s) (hne : call.list ≠ list) :
    ∃ t, (call.on b).database = .ready t ∧ t.rules list = s.rules list := by
  cases call with
  | add which text =>
    rw [RuleCall.on]
    cases htext : normalizeCidr text with
    | error fault =>
      rw [on_addRule_of_error htext]
      exact ⟨s, hs, rfl⟩
    | ok block =>
      rw [on_addRule_of_ok htext hs, Store.addRule]
      dsimp only
      split_ifs
      · exact ⟨s, hs, rfl⟩
      · exact ⟨_, rfl, Store.rules_setRules.trans (if_neg hne)⟩
  | remove which id =>
    rw [RuleCall.on, on_removeRule hs, Store.removeRule]
    split_ifs
    · exact ⟨_, rfl, Store.rules_setRules.trans (if_neg hne)⟩
    · exact ⟨s, hs, rfl⟩

theorem keeping_other (h : b.Keeping list typed) (hne : call.list ≠ list) : (call.on b).Keeping list typed := by
  obtain ⟨s, hs, hkeeps⟩ := h
  obtain ⟨t, ht, hrules⟩ := other hs hne
  refine ⟨t, ht, ?_⟩
  rwa [Store.Keeps, hrules]

/-- A call on the list keeps the list in step with what was typed. -/
theorem keeping (h : b.Keeping list typed) (hlist : call.list = list) :
    (call.on b).Keeping list (call.noted b typed) := by
  cases call with
  | add which text =>
    obtain rfl : which = list := hlist
    rw [RuleCall.on]
    delta noted
    dsimp only
    rcases on_addRule_cases h text with ⟨fault, -, hon⟩ | ⟨block, -, -, hon⟩ |
      ⟨s, block, rule, hs, htext, -, rfl, hon⟩ <;> rw [hon]
    · exact h
    · exact h
    · exact ⟨_, rfl, (h.keeps hs).append htext⟩
  | remove which id =>
    obtain rfl : which = list := hlist
    rw [RuleCall.on]
    delta noted
    dsimp only
    rcases on_removeRule_cases h id with ⟨-, hon⟩ | ⟨s, hs, -, hon⟩ <;> rw [hon]
    · exact h
    · exact ⟨_, rfl, (h.keeps hs).filter id⟩

/-- No two texts have rules of the same id. -/
theorem noted_nodup (h : b.Keeping list typed) (hlist : call.list = list) (hids : (typed.map (·.id)).Nodup) :
    ((call.noted b typed).map (·.id)).Nodup := by
  cases call with
  | add which text =>
    obtain rfl : which = list := hlist
    delta noted
    dsimp only
    rcases on_addRule_cases h text with ⟨fault, -, hon⟩ | ⟨block, -, -, hon⟩ | ⟨s, block, rule, -, -, -, rfl, hon⟩ <;>
      rw [hon]
    · exact hids
    · exact hids
    · dsimp only
      rw [List.map_append]
      refine List.nodup_append.mpr ⟨hids, List.nodup_singleton _, ?_⟩
      rintro id hid _ hnew rfl
      obtain rfl := List.mem_singleton.mp hnew
      exact Int.lt_irrefl _ (Store.lt_nextId hid)
  | remove which id =>
    obtain rfl : which = list := hlist
    delta noted
    dsimp only
    rcases on_removeRule_cases h id with ⟨-, hon⟩ | ⟨s, -, -, hon⟩ <;> rw [hon]
    · exact hids
    · exact hids.sublist (List.filter_sublist.map _)

/-- Boards whose lists keep the same texts answer a call on the list alike. -/
theorem noted_congr (h : b.Keeping list typed) (h' : b'.Keeping list typed) (hlist : call.list = list) :
    call.noted b typed = call.noted b' typed := by
  cases call with
  | add which text =>
    obtain rfl : which = list := hlist
    delta noted
    dsimp only
    rcases on_addRule_cases h text with ⟨fault, htext, hon⟩ | ⟨block, htext, hknown, hon⟩ |
        ⟨s, block, rule, -, htext, hnew, rfl, hon⟩ <;>
      rcases on_addRule_cases h' text with ⟨fault', htext', hon'⟩ | ⟨block', htext', hknown', hon'⟩ |
        ⟨s', block', rule', -, htext', hnew', rfl, hon'⟩ <;>
      rw [htext] at htext' <;> cases htext' <;> rw [hon, hon']
    · exact absurd hknown hnew'
    · exact absurd hknown' hnew
  | remove which id =>
    obtain rfl : which = list := hlist
    delta noted
    dsimp only
    rcases on_removeRule_cases h id with ⟨hnone, hon⟩ | ⟨s, -, ⟨t, ht, hid⟩, hon⟩ <;>
      rcases on_removeRule_cases h' id with ⟨hnone', hon'⟩ | ⟨s', -, ⟨t', ht', hid'⟩, hon'⟩ <;> rw [hon, hon']
    · exact absurd hid' (hnone t' ht')
    · exact absurd hid (hnone' t ht)

end RuleCall

/-! ### Runs -/

namespace Board
variable {b b' : Board} {s : Store} {list : RuleList} {known : List Typed}

theorem Keeping.ruled (h : b.Keeping list known) (calls : List RuleCall) :
    (b.ruled calls).Keeping list (b.typed list known calls) := by
  induction calls generalizing b known with
  | nil => exact h
  | cons call calls ih =>
    rw [typed]
    split
    · exact ih (call.keeping h ‹_›)
    · exact ih (call.keeping_other h ‹_›)

theorem Keeping.nodup (h : b.Keeping list known) (hids : (known.map (·.id)).Nodup) (calls : List RuleCall) :
    ((b.typed list known calls).map (·.id)).Nodup := by
  induction calls generalizing b known with
  | nil => exact hids
  | cons call calls ih =>
    rw [typed]
    split
    · exact ih (call.keeping h ‹_›) (call.noted_nodup h ‹_› hids)
    · exact ih (call.keeping_other h ‹_›) hids

/-- Calls on the other list have no part in what is accepted and not removed. -/
theorem typed_filter (h : b.Keeping list known) (h' : b'.Keeping list known) (calls : List RuleCall) :
    b.typed list known calls = b'.typed list known (calls.filter (·.list = list)) := by
  induction calls generalizing b b' known with
  | nil => rfl
  | cons call calls ih =>
    rw [typed]
    by_cases hlist : call.list = list
    · rw [List.filter_cons_of_pos (by simpa using hlist), typed, if_pos hlist, if_pos hlist,
        ← call.noted_congr h h' hlist]
      refine ih (call.keeping h hlist) ?_
      rw [call.noted_congr h h' hlist]
      exact call.keeping h' hlist
    · rw [List.filter_cons_of_neg (by simpa using hlist), if_neg hlist]
      exact ih (call.keeping_other h hlist) h'

theorem keeping_nil (hs : b.database = .ready s) (hnone : s.rules list = []) : b.Keeping list [] :=
  ⟨s, hs, by rw [Store.Keeps, hnone]; rfl⟩

variable {typed : List Typed} {text : String}

/-- The enabled rules of a list match an address if and only if something that was typed covers it. -/
theorem Keeping.matches (h : b.Keeping list typed) : ∃ cidrs, (enabledCidrs list).on b = (.ok cidrs, b) ∧
    ∀ a : Ipv4, matchesAny cidrs a.text = true ↔ ∃ t ∈ typed, TextCovers t.text a := by
  obtain ⟨s, hs, hkeeps⟩ := h
  refine ⟨_, on_enabledCidrs hs, fun a => ?_⟩
  rw [matchesAny, List.any_eq_true, hkeeps.enabledCidrs_eq]
  constructor
  · rintro ⟨block, hblock, hmatches⟩
    obtain ⟨t, ht, htext⟩ := hkeeps.mem_cidrs.mp hblock
    exact ⟨t, ht, (matches_normal htext a).mp hmatches⟩
  · rintro ⟨t, ht, hcovers⟩
    obtain ⟨block, htext⟩ := hkeeps.normal ht
    exact ⟨block, hkeeps.mem_cidrs.mpr ⟨t, ht, htext⟩, (matches_normal htext a).mpr hcovers⟩

/-- A text is a conflict if and only if something that was typed covers the same addresses. -/
theorem Keeping.conflict (h : b.Keeping list typed) :
    (∃ clash, ((addRule list text).on b).1 = .error (.conflict clash)) ↔
      ∃ t ∈ typed, ∀ a, TextCovers t.text a ↔ TextCovers text a := by
  rcases on_addRule_cases h text with ⟨fault, htext, hon⟩ | ⟨block, htext, ⟨t, ht, hsame⟩, hon⟩ |
      ⟨s, block, rule, -, htext, hnew, rfl, hon⟩ <;> rw [hon]
  · refine iff_of_false (fun ⟨_, he⟩ => nomatch he) fun ⟨t, ht, hsame⟩ => ?_
    -- What was typed covers an address, but a text that is refused covers none.
    obtain ⟨s, -, hkeeps⟩ := h
    obtain ⟨a, ha⟩ := normalizeCidr_isOk_iff.mp (hkeeps.normal ht)
    obtain ⟨block, hblock⟩ := normalizeCidr_isOk_iff.mpr ⟨a, (hsame a).mp ha⟩
    rw [htext] at hblock
    cases hblock
  · exact iff_of_true ⟨_, rfl⟩ ⟨t, ht, (normal_eq_iff htext).mp hsame⟩
  · refine iff_of_false (fun ⟨_, he⟩ => nomatch he) fun ⟨t, ht, hsame⟩ => ?_
    exact absurd ⟨t, ht, (normal_eq_iff htext).mpr hsame⟩ hnew

/-- A text is accepted if and only if it covers an address at all, and nothing that was typed covers the same ones. -/
theorem Keeping.accepted (h : b.Keeping list typed) : (∃ rule, ((addRule list text).on b).1 = .ok rule) ↔
    (∃ a, TextCovers text a) ∧ ¬∃ t ∈ typed, ∀ a, TextCovers t.text a ↔ TextCovers text a := by
  rw [← h.conflict, ← normalizeCidr_isOk_iff]
  rcases on_addRule_cases h text with ⟨fault, htext, hon⟩ | ⟨block, htext, -, hon⟩ |
      ⟨s, block, rule, -, htext, -, rfl, hon⟩ <;> rw [hon, htext] <;> simp

/-- A removal succeeds if and only if something that was typed has a rule with the id. -/
theorem Keeping.removed (h : b.Keeping list typed) (id : Int) :
    ((removeRule list id).on b).1 = .ok () ↔ ∃ t ∈ typed, t.id = id := by
  rcases on_removeRule_cases h id with ⟨hnone, hon⟩ | ⟨s, -, hsome, hon⟩ <;> rw [hon]
  · exact iff_of_false nofun fun ⟨t, ht, hid⟩ => hnone t ht hid
  · exact iff_of_true rfl hsome

end Board

/-- After any calls on two lists that were empty, let the texts of a list be those that it accepted and whose rules have
not been removed since. Then the list matches an address in dotted form if and only if one of the texts covers it; an
addition is a conflict if and only if one of the texts covers exactly the same addresses, and is accepted if it covers
any and is no conflict; a removal takes away exactly one of the texts; and calls on the other list change nothing of
this. -/
theorem rules_mean_what_was_typed {b : Board} {s : Store} (hs : b.database = .ready s)
    (hempty : ∀ list, s.rules list = []) (calls : List RuleCall) (list : RuleList) :
    (∃ cidrs, (enabledCidrs list).on (b.ruled calls) = (.ok cidrs, b.ruled calls) ∧
      ∀ a : Ipv4, matchesAny cidrs a.text = true ↔ ∃ t ∈ b.typed list [] calls, TextCovers t.text a) ∧
    (∀ text,
      ((∃ clash, ((addRule list text).on (b.ruled calls)).1 = .error (.conflict clash)) ↔
        ∃ t ∈ b.typed list [] calls, ∀ a, TextCovers t.text a ↔ TextCovers text a) ∧
      ((∃ rule, ((addRule list text).on (b.ruled calls)).1 = .ok rule) ↔
        (∃ a, TextCovers text a) ∧ ¬∃ t ∈ b.typed list [] calls, ∀ a, TextCovers t.text a ↔ TextCovers text a)) ∧
    ((∀ id, ((removeRule list id).on (b.ruled calls)).1 = .ok () ↔ ∃ t ∈ b.typed list [] calls, t.id = id) ∧
      ((b.typed list [] calls).map (·.id)).Nodup) ∧
    b.typed list [] calls = b.typed list [] (calls.filter (·.list = list)) ∧
    ∀ call : RuleCall, call.list ≠ list →
      (call.on (b.ruled calls)).store.rules list = (b.ruled calls).store.rules list := by
  have hstart : b.Keeping list [] := keeping_nil hs (hempty list)
  have hkeeping := hstart.ruled calls
  refine ⟨hkeeping.matches, fun text => ⟨hkeeping.conflict, hkeeping.accepted⟩,
    ⟨hkeeping.removed, hstart.nodup List.nodup_nil calls⟩, typed_filter hstart hstart calls, fun call hne => ?_⟩
  obtain ⟨t, ht, -⟩ := hkeeping
  obtain ⟨u, hu, hrules⟩ := call.other ht hne
  rw [store_eq hu, store_eq ht, hrules]

/-- A block is typed on both lists, then removed from one and typed there again with another host. -/
def retyping : List RuleCall :=
  [.add .deny "10.0.0.5/24", .add .allow " 10.0.0.77 / 24 ", .remove .deny 1, .add .deny "10.0.0.9/24",
    .add .deny "10.0.0.8/24"]

/-- The list matches the whole block and refuses another host of it; what it holds was typed last. -/
theorem rules_mean_what_was_typed_again :
    (Board.fresh counting).typed .deny [] retyping = [⟨1, "10.0.0.9/24"⟩] ∧
    (∃ cidrs, (enabledCidrs .deny).on ((Board.fresh counting).ruled retyping) =
      (.ok cidrs, (Board.fresh counting).ruled retyping) ∧ matchesAny cidrs (Ipv4.ofOctets 10 0 0 200).text = true) ∧
    ∃ clash, ((addRule .deny "10.0.0.1/24").on ((Board.fresh counting).ruled retyping)).1 =
      .error (.conflict clash) := by
  have htyped : (Board.fresh counting).typed .deny [] retyping = [⟨1, "10.0.0.9/24"⟩] := by decide +kernel
  have hempty : ∀ list, (Board.fresh counting).store.rules list = [] := by rintro (_ | _) <;> rfl
  obtain ⟨⟨cidrs, hcidrs, hmatches⟩, hadd, -⟩ :=
    rules_mean_what_was_typed (b := Board.fresh counting) rfl hempty retyping .deny
  have hcovers : TextCovers "10.0.0.9/24" (Ipv4.ofOctets 10 0 0 200) :=
    textCovers_iff.mpr ⟨⟨Ipv4.ofOctets 10 0 0 9, 24, by decide⟩, by decide +kernel, by decide +kernel⟩
  have hnormal : normalizeCidr "10.0.0.1/24" = .ok "10.0.0.0/24" := by decide +kernel
  have hsame : ∀ a, TextCovers "10.0.0.9/24" a ↔ TextCovers "10.0.0.1/24" a :=
    (normal_eq_iff hnormal).mp (by decide +kernel)
  rw [htyped] at hmatches hadd
  exact ⟨htyped, ⟨cidrs, hcidrs, (hmatches _).mpr ⟨_, List.mem_singleton_self _, hcovers⟩⟩,
    (hadd "10.0.0.1/24").1.mpr ⟨_, List.mem_singleton_self _, hsame⟩⟩

end Pasteboard
