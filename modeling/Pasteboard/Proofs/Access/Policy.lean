import Pasteboard.Proofs.Access.Rules
import Pasteboard.Proofs.Access.Verdict
import Pasteboard.Proofs.Api.Disguise
/-!
Changes of the policy work in one direction.

A rule that is added to what is denied, or taken away from what is allowed, lets nobody pass who did not pass before;
a rule that is added to what is allowed, or taken away from what is denied, turns nobody away. The two are one relation
between the data before and after, read in both directions.
-/

namespace Pasteboard
open Board

/-! ### Stricter data -/

namespace Store
variable {s t u : Store} {few many : List IpRule} {list : RuleList}

/-- The keys are the same but for their use, no less is denied, and no more is allowed. -/
structure Stricter (s t : Store) : Prop where
  keys : t.keys.map ApiKey.unused = s.keys.map ApiKey.unused
  deny : s.enabledCidrs .deny ⊆ t.enabledCidrs .deny
  allow : t.enabledCidrs .allow ⊆ s.enabledCidrs .allow

theorem Stricter.trans (h : s.Stricter t) (h' : t.Stricter u) : s.Stricter u where
  keys := h'.keys.trans h.keys
  deny := List.Subset.trans h.deny h'.deny
  allow := List.Subset.trans h'.allow h.allow

theorem Stricter.of_rules (hkeys : t.keys.map ApiKey.unused = s.keys.map ApiKey.unused)
    (hrules : ∀ list, t.rules list = s.rules list) : s.Stricter t where
  keys := hkeys
  deny := by rw [enabledCidrs, enabledCidrs, hrules]; exact List.Subset.refl _
  allow := by rw [enabledCidrs, enabledCidrs, hrules]; exact List.Subset.refl _

theorem enabledCidrs_subset (h : (s.rules list).Sublist (t.rules list)) : s.enabledCidrs list ⊆ t.enabledCidrs list :=
  ((h.filter _).map _).subset

/-- More rules that deny are stricter. -/
theorem setRules_deny_stricter (h : few.Sublist many) : (s.setRules .deny few).Stricter (s.setRules .deny many) where
  keys := rfl
  deny := enabledCidrs_subset h
  allow := List.Subset.refl _

/-- Fewer rules that allow are stricter. -/
theorem setRules_allow_stricter (h : few.Sublist many) : (s.setRules .allow many).Stricter (s.setRules .allow few) where
  keys := rfl
  deny := List.Subset.refl _
  allow := enabledCidrs_subset h

theorem SameButUse.rules {id : Int} (h : SameButUse id s t) (list : RuleList) : t.rules list = s.rules list := by
  cases list with
  | allow => exact h.allow
  | deny => exact h.deny

/-- Noting the use of a key makes the data neither stricter nor less strict. -/
theorem SameButUse.stricter {id : Int} (h : SameButUse id s t) : s.Stricter t ∧ t.Stricter s :=
  have hkeys : t.keys.map ApiKey.unused = s.keys.map ApiKey.unused := h.map_keys fun _ _ _ => rfl
  ⟨.of_rules hkeys h.rules, .of_rules hkeys.symm fun list => (h.rules list).symm⟩

end Store

theorem Net.matchesAny_mono {few many : List String} {ip : String} (h : few ⊆ many) (hm : matchesAny few ip = true) :
    matchesAny many ip = true := by
  obtain ⟨cidr, hcidr, hmatches⟩ := List.any_eq_true.mp hm
  exact List.any_eq_true.mpr ⟨cidr, h hcidr, hmatches⟩

namespace Gate
variable {s : Settings} {c : Caller} {st st' : Store}

theorem byKeys_congr (h : st'.keys.map ApiKey.unused = st.keys.map ApiKey.unused) : byKeys st' c = byKeys st c := by
  have hnil : st'.keys = [] ↔ st.keys = [] := by rw [← List.map_eq_nil_iff, h, List.map_eq_nil_iff]
  have hfind (secret : String) : (st'.findKey secret).map ApiKey.unused = (st.findKey secret).map ApiKey.unused := by
    rw [Store.findKey_unused, h, ← Store.findKey_unused]
  unfold byKeys
  rw [if_congr hnil rfl rfl]
  split
  · rfl
  cases c.key with
  | none => rfl
  | some secret =>
    have hsecret := hfind secret
    dsimp only
    generalize st'.findKey secret = found', st.findKey secret = found at hsecret ⊢
    cases found' <;> cases found
    · rfl
    · cases hsecret
    · cases hsecret
    · -- Keys that are the same but for their use have the same id and role.
      obtain ⟨hid, -, -, -, hrole, -⟩ := ApiKey.mk.inj (Option.some.inj hsecret)
      dsimp only
      rw [hid, hrole]

/-- Who passes under stricter data passes. -/
theorem verdict_of_stricter (h : st.Stricter st') (hp : ∃ v, verdict s st' c = .pass v) :
    ∃ v, verdict s st c = .pass v := by
  obtain ⟨v, hv⟩ := hp
  unfold verdict byAddress at hv ⊢
  by_cases hexempt : exempt s c = true
  · exact ⟨_, by rw [if_pos hexempt, Option.getD_some]⟩
  rw [if_neg hexempt] at hv ⊢
  by_cases hdenied : Net.matchesAny (st'.enabledCidrs .deny) c.clientIp = true
  · rw [if_pos hdenied] at hv
    cases hv
  rw [if_neg hdenied] at hv
  rw [if_neg (mt (Net.matchesAny_mono h.deny) hdenied)]
  by_cases hlisted : Net.matchesAny (st.enabledCidrs .allow) c.clientIp = true
  · exact ⟨_, by rw [if_pos hlisted, Option.getD_some]⟩
  rw [if_neg hlisted]
  rw [if_neg (mt (Net.matchesAny_mono h.allow) hlisted)] at hv
  exact ⟨v, (byKeys_congr h.keys).symm.trans hv⟩

end Gate

/-! ### Stricter boards -/

namespace Board
variable {b b' b'' : Board} {s : Settings} {c : Gate.Caller}

/-- The gate lets a caller pass. -/
def Admits (b : Board) (s : Settings) (c : Gate.Caller) : Prop := ∃ v, ((Gate.evaluate s c).on b).1 = .ok (.pass v)

/-- The gate turns a caller away. -/
def Refuses (b : Board) (s : Settings) (c : Gate.Caller) : Prop := ∃ d, ((Gate.evaluate s c).on b).1 = .ok (.deny d)

/-- The data is stricter, or the same. -/
inductive Stricter (b b' : Board) : Prop
  | same (h : b'.database = b.database)
  | stores {s t : Store} (hs : b.database = .ready s) (ht : b'.database = .ready t) (h : s.Stricter t)

theorem Stricter.trans (h : b.Stricter b') (h' : b'.Stricter b'') : b.Stricter b'' := by
  cases h with
  | same h => cases h' with
    | same h' => exact .same (h'.trans h)
    | stores hs ht h' => exact .stores (h ▸ hs) ht h'
  | stores hs ht h => cases h' with
    | same h' => exact .stores hs (h'.trans ht) h
    | stores hs' ht' h' =>
      cases ht.symm.trans hs'
      exact .stores hs ht' (h.trans h')

theorem admits_iff : b.Admits s c ↔
    Gate.exempt s c = true ∨ ∃ st, b.database = .ready st ∧ ∃ v, Gate.verdict s st c = .pass v := by
  constructor
  · rintro ⟨v, hv⟩
    by_cases hready : ∃ st, b.database = .ready st
    · obtain ⟨st, hst⟩ := hready
      rw [Gate.evaluate_eq hst] at hv
      exact Or.inr ⟨st, hst, v, Except.ok.inj hv⟩
    · cases hexempt : Gate.exempt s c with
      | true => exact Or.inl rfl
      | false =>
        obtain ⟨e, he⟩ := Gate.evaluate_unready (not_exists.mp hready) hexempt
        cases he.symm.trans hv
  · rintro (hexempt | ⟨st, hst, v, hv⟩)
    · exact ⟨_, congrArg Prod.fst (Gate.evaluate_of_exempt hexempt b)⟩
    · exact ⟨v, by rw [Gate.evaluate_eq hst, hv]⟩

theorem refuses_iff : b.Refuses s c ↔ ∃ st, b.database = .ready st ∧ ∃ d, Gate.verdict s st c = .deny d := by
  constructor
  · rintro ⟨d, hd⟩
    by_cases hready : ∃ st, b.database = .ready st
    · obtain ⟨st, hst⟩ := hready
      rw [Gate.evaluate_eq hst] at hd
      exact ⟨st, hst, d, Except.ok.inj hd⟩
    · cases hexempt : Gate.exempt s c with
      | true => cases (congrArg Prod.fst (Gate.evaluate_of_exempt hexempt b)).symm.trans hd
      | false =>
        obtain ⟨e, he⟩ := Gate.evaluate_unready (not_exists.mp hready) hexempt
        cases he.symm.trans hd
  · rintro ⟨st, hst, d, hd⟩
    exact ⟨d, by rw [Gate.evaluate_eq hst, hd]⟩

/-- Who passes on a stricter board passes. -/
theorem Stricter.admits (h : b.Stricter b') (ha : b'.Admits s c) : b.Admits s c := by
  rw [admits_iff] at ha ⊢
  refine ha.imp_right ?_
  rintro ⟨st, hst, hv⟩
  cases h with
  | same h => exact ⟨st, h ▸ hst, hv⟩
  | stores hs ht h =>
    cases ht.symm.trans hst
    exact ⟨_, hs, Gate.verdict_of_stricter h hv⟩

/-- Who is turned away is turned away on a stricter board. -/
theorem Stricter.refuses (h : b.Stricter b') (hr : b.Refuses s c) : b'.Refuses s c := by
  rw [refuses_iff] at hr ⊢
  obtain ⟨st, hst, d, hd⟩ := hr
  cases h with
  | same h => exact ⟨st, h ▸ hst, d, hd⟩
  | @stores _ t hs ht h =>
    cases hs.symm.trans hst
    cases hv : Gate.verdict s t c with
    | deny d' => exact ⟨t, ht, d', hv⟩
    | pass v =>
      obtain ⟨w, hw⟩ := Gate.verdict_of_stricter h ⟨v, hv⟩
      cases hw.symm.trans hd

/-- The data is the same but for the use of a key. -/
def SameButUse (b b' : Board) : Prop :=
  b'.database = b.database ∨ ∃ id st st', b.database = .ready st ∧ b'.database = .ready st' ∧ st.SameButUse id st'

/-- A decision leaves the data the same but for the use of a key. -/
theorem decided_same (s : Settings) (c : Gate.Caller) (b : Board) : b.SameButUse ((Gate.evaluate s c).on b).2 := by
  have hdecided := Gate.evaluate_decided s c b
  generalize (Gate.evaluate s c).on b = outcome at hdecided ⊢
  cases hdecided with
  | denied | failed => exact Or.inl rfl
  | passes hp =>
    exact hp.noted.imp_right fun ⟨id, st, st', _, hs, ht, hsame⟩ => ⟨id, st, st', hs, ht, hsame⟩

theorem SameButUse.stricter (h : b.SameButUse b') : b.Stricter b' ∧ b'.Stricter b := by
  rcases h with hsame | ⟨id, st, st', hs, ht, hsame⟩
  · exact ⟨.same hsame, .same hsame.symm⟩
  · exact ⟨.stores hs ht hsame.stricter.1, .stores ht hs hsame.stricter.2⟩

end Board

/-! ### Calls on the lists -/

namespace RuleCall
variable {call : RuleCall}

/-- A call that can only make the gate stricter. -/
def Tightens : RuleCall → Prop
  | .add .deny _ | .remove .allow _ => True
  | .add .allow _ | .remove .deny _ => False

/-- A call that can only make the gate less strict. -/
def Loosens : RuleCall → Prop
  | .add .allow _ | .remove .deny _ => True
  | .add .deny _ | .remove .allow _ => False

/-- What a call that succeeds makes of the rules of its list. -/
def Turns (old new : List IpRule) : RuleCall → Prop
  | .add _ _ => old.Sublist new
  | .remove _ _ => new.Sublist old

theorem on_cases (b : Board) (call : RuleCall) : (call.on b).database = b.database ∨
    ∃ s new, b.database = .ready s ∧ (call.on b).database = .ready (s.setRules call.list new) ∧
      call.Turns (s.rules call.list) new := by
  by_cases hready : ∃ s, b.database = .ready s
  · obtain ⟨s, hs⟩ := hready
    cases call with
    | add which text =>
      rw [RuleCall.on]
      cases htext : Net.normalizeCidr text with
      | error fault =>
        rw [on_addRule_of_error htext]
        exact Or.inl rfl
      | ok block =>
        rw [on_addRule_of_ok htext hs, Store.addRule]
        dsimp only
        split_ifs
        · exact Or.inl rfl
        · exact Or.inr ⟨s, _, hs, rfl, List.sublist_append_left _ _⟩
    | remove which id =>
      rw [RuleCall.on, on_removeRule hs, Store.removeRule]
      split_ifs
      · exact Or.inr ⟨s, _, hs, rfl, List.filter_sublist⟩
      · exact Or.inl rfl
  · -- Without tables a call can only fail.
    left
    obtain ⟨_ | _ | s, _, _⟩ := b
    · cases call with
      | add which text =>
        rw [RuleCall.on, addRule]
        cases Net.normalizeCidr text <;> rfl
      | remove which id => rfl
    · cases call with
      | add which text =>
        rw [RuleCall.on, addRule]
        cases Net.normalizeCidr text <;> rfl
      | remove which id => rfl
    · exact absurd ⟨s, rfl⟩ hready

theorem Tightens.stricter (h : call.Tightens) (b : Board) : b.Stricter (call.on b) := by
  rcases call.on_cases b with hsame | ⟨s, new, hs, ht, hturns⟩
  · exact .same hsame
  refine .stores hs ht ?_
  rcases call with ⟨_ | _, text⟩ | ⟨_ | _, id⟩
  · exact h.elim
  · exact Store.setRules_deny_stricter (s := s) hturns
  · exact Store.setRules_allow_stricter (s := s) hturns
  · exact h.elim

theorem Loosens.stricter (h : call.Loosens) (b : Board) : (call.on b).Stricter b := by
  rcases call.on_cases b with hsame | ⟨s, new, hs, ht, hturns⟩
  · exact .same hsame.symm
  refine .stores ht hs ?_
  rcases call with ⟨_ | _, text⟩ | ⟨_ | _, id⟩
  · exact Store.setRules_allow_stricter (s := s) hturns
  · exact h.elim
  · exact h.elim
  · exact Store.setRules_deny_stricter (s := s) hturns

end RuleCall

namespace Board
variable {b : Board} {calls : List RuleCall}

theorem stricter_ruled (b : Board) (h : ∀ call ∈ calls, call.Tightens) : b.Stricter (b.ruled calls) := by
  induction calls generalizing b with
  | nil => exact .same rfl
  | cons call calls ih =>
    exact ((h call List.mem_cons_self).stricter b).trans (ih _ fun next hnext => h next (List.mem_cons_of_mem _ hnext))

theorem ruled_stricter (b : Board) (h : ∀ call ∈ calls, call.Loosens) : (b.ruled calls).Stricter b := by
  induction calls generalizing b with
  | nil => exact .same rfl
  | cons call calls ih =>
    exact (ih _ fun next hnext => h next (List.mem_cons_of_mem _ hnext)).trans ((h call List.mem_cons_self).stricter b)

end Board

/-! ### Raised keys -/

theorem Role.named?_name (role : Role) : Role.named? role.name = some role := by cases role <;> decide +kernel

namespace Gate
variable {s : Settings} {c : Caller} {st t : Store} {v : Visitor} {id : Int} {role old : Role} {secret : String}
  {key : ApiKey}

theorem byAddress_congr (st : Store) (h : ∀ list, t.enabledCidrs list = st.enabledCidrs list) :
    byAddress s t c = byAddress s st c := by
  rw [byAddress, byAddress, h, h]

/-- Who passes by a key passes by no other rule. -/
theorem byAddress_eq_none (h : verdict s st c = .pass v) (hid : v.keyId = some id) : byAddress s st c = none := by
  unfold verdict at h
  cases hb : byAddress s st c with
  | none => rfl
  | some d =>
    rw [hb, Option.getD_some] at h
    unfold byAddress at hb
    split_ifs at hb <;> cases hb <;> cases h <;> cases hid

theorem byKeys_of_found (presented : c.key = some secret) (found : st.findKey secret = some key) :
    byKeys st c = if (required c.method c.path).metBy (Role.named? key.role) then .pass ⟨c.clientIp, some key.id⟩
      else .deny (.weakRole key.role (required c.method c.path)) := by
  have hkeys : st.keys ≠ [] := List.ne_nil_of_mem (Store.findKey_eq_some found).1
  rw [byKeys, if_neg hkeys, presented]
  dsimp only
  rw [found]

/-- Who passes by a key passes by it when its role is raised. -/
theorem verdict_raised (h : verdict s st c = .pass v) (hid : v.keyId = some key.id) (presented : c.key = some secret)
    (found : st.findKey secret = some key) (named : Role.named? key.role = some old) (hraised : old.rank ≤ role.rank)
    (ht : st.setRole key.id role = .ok t) : verdict s t c = .pass v := by
  have hopen := byAddress_eq_none h hid
  unfold Store.setRole Store.updateKey at ht
  split at ht <;> cases ht
  have hfound : Store.findKey secret { st with
      keys := st.keys.map fun k => if k.id == key.id then { k with role := role.name } else k } =
        some { key with role := role.name } := by
    rw [Store.findKey_map, found, Option.map_some, if_pos (beq_self_eq_true _)]
    intro k
    split <;> exact ⟨rfl, rfl⟩
  rw [verdict, hopen, Option.getD_none, byKeys_of_found presented found, named] at h
  rw [verdict, byAddress_congr st (by rintro (_ | _) <;> rfl), hopen, Option.getD_none,
    byKeys_of_found presented hfound, Role.named?_name]
  have hmet : (required c.method c.path).metBy (some old) = true := by
    by_contra hnot
    rw [if_neg hnot] at h
    cases h
  rw [if_pos hmet] at h
  rw [if_pos, ← h]
  simp only [Role.metBy, decide_eq_true_eq] at hmet ⊢
  exact Nat.le_trans hmet hraised

theorem exempt_eq_false (hfree : s.noAuth = false)
    (hlocal : ¬(s.allowLocalhost = true ∧ isRead c.method c.path = true ∧ Net.isLoopback c.clientIp = true)) :
    exempt s c = false := by
  rw [exempt, hfree, Bool.false_or, ← Bool.not_eq_true, Bool.and_eq_true, Bool.and_eq_true, and_assoc]
  exact hlocal

/-- A rule that denies the address decides before all that lets pass but the exemptions. -/
theorem verdict_of_denied (hexempt : exempt s c = false) {deny : IpRule} (hdeny : deny ∈ st.deny)
    (henabled : deny.enabled = true) (hmatches : Net.cidrMatches deny.cidr c.clientIp = true) :
    verdict s st c = .deny (.address c.clientIp) := by
  have hdenied : Net.matchesAny (st.enabledCidrs .deny) c.clientIp = true :=
    List.any_eq_true.mpr ⟨deny.cidr, List.mem_map_of_mem (List.mem_filter.mpr ⟨hdeny, henabled⟩), hmatches⟩
  rw [verdict, byAddress, hexempt, if_neg Bool.false_ne_true, if_pos hdenied, Option.getD_some]

end Gate

theorem Store.SameButUse.verdict_eq {st st' : Store} {id : Int} (h : st.SameButUse id st') (s : Settings)
    (c : Gate.Caller) : Gate.verdict s st' c = Gate.verdict s st c := by
  have hrules (list : RuleList) : st'.enabledCidrs list = st.enabledCidrs list := by
    rw [enabledCidrs, enabledCidrs, h.rules]
  rw [Gate.verdict, Gate.verdict, Gate.byAddress_congr st hrules, Gate.byKeys_congr (h.map_keys fun _ _ _ => rfl)]

namespace Board
variable {b b' : Board} {s : Settings} {c : Gate.Caller}

/-- Who passes by a key passes by it when its role is raised, also if its use was noted before. -/
theorem SameButUse.raised (hb : b.SameButUse b') {v : Gate.Visitor} {secret : String} {key : ApiKey} {old role : Role}
    (h : ((Gate.evaluate s c).on b).1 = .ok (.pass v)) (hid : v.keyId = some key.id) (presented : c.key = some secret)
    (found : b.store.findKey secret = some key) (named : Role.named? key.role = some old)
    (hraised : old.rank ≤ role.rank) : ((Gate.evaluate s c).on ((setRole key.id role).on b').2).1 = .ok (.pass v) := by
  obtain ⟨st, hst⟩ : ∃ st, b.database = .ready st := by
    by_contra hnone
    rw [store_unready (not_exists.mp hnone)] at found
    cases found
  rw [store_eq hst] at found
  rw [Gate.evaluate_eq hst] at h
  -- The board on which the role is raised has the same key, whether its use was noted or not.
  have hsame : ∃ st' key', b'.database = .ready st' ∧ Gate.verdict s st' c = Gate.verdict s st c ∧
      st'.findKey secret = some key' ∧ key'.id = key.id ∧ key'.role = key.role := by
    rcases hb with hb | ⟨id, st₀, st', hs, ht, hnoted⟩
    · exact ⟨st, key, hb.trans hst, rfl, found, rfl, rfl⟩
    · cases hst.symm.trans hs
      have hfind : (st'.findKey secret).map ApiKey.unused = some key.unused := by
        rw [Store.findKey_unused, hnoted.map_keys fun _ _ _ => rfl, ← Store.findKey_unused, found, Option.map_some]
      obtain ⟨key', hkey', hunused⟩ := Option.map_eq_some_iff.mp hfind
      obtain ⟨hid', -, -, -, hrole', -⟩ := ApiKey.mk.inj hunused
      exact ⟨st', key', ht, hnoted.verdict_eq s c, hkey', hid', hrole'⟩
  obtain ⟨st', key', hst', hverdict, found', hkey', hrole'⟩ := hsame
  have hany : st'.keys.any (·.id == key'.id) = true :=
    List.any_eq_true.mpr ⟨key', (Store.findKey_eq_some found').1, beq_self_eq_true _⟩
  have hset : st'.setRole key'.id role = .ok _ := if_pos hany
  rw [← hkey', setRole, on_change hst', hset, Gate.evaluate_eq rfl,
    Gate.verdict_raised (hverdict.trans (Except.ok.inj h)) (hkey' ▸ hid) presented found' (hrole' ▸ named) hraised hset]

end Board

/-- Whatever the settings and the data: who is turned away is still turned away after any more denials and any fewer
allowances; who passes still passes after any more allowances and any fewer denials; who passes by a key still passes by
it once its role is raised; and of two enabled rules that match an address, the one that denies it decides, whatever key
is presented, unless the address is not looked at. The changes may be made before or after the decision. -/
theorem policy_is_monotone (s : Settings) (c : Gate.Caller) {b b' : Board}
    (hb : b' = b ∨ b' = ((Gate.evaluate s c).on b).2) :
    (b.Refuses s c → ∀ calls : List RuleCall, (∀ call ∈ calls, call.Tightens) → (b'.ruled calls).Refuses s c) ∧
    (b.Admits s c → ∀ calls : List RuleCall, (∀ call ∈ calls, call.Loosens) → (b'.ruled calls).Admits s c) ∧
    (∀ (v : Gate.Visitor) (secret : String) (key : ApiKey) (old role : Role),
      ((Gate.evaluate s c).on b).1 = .ok (.pass v) → v.keyId = some key.id → c.key = some secret →
      b.store.findKey secret = some key → Role.named? key.role = some old → old.rank ≤ role.rank →
      ((Gate.evaluate s c).on ((setRole key.id role).on b').2).1 = .ok (.pass v)) ∧
    ∀ deny ∈ b.store.deny, ∀ allow ∈ b.store.allow, deny.enabled = true → allow.enabled = true →
      Net.cidrMatches deny.cidr c.clientIp = true → Net.cidrMatches allow.cidr c.clientIp = true →
      s.noAuth = false →
      ¬(s.allowLocalhost = true ∧ Gate.isRead c.method c.path = true ∧ Net.isLoopback c.clientIp = true) →
      ∀ key, ((Gate.evaluate s { c with key }).on b).1 = .ok (.deny (.address c.clientIp)) := by
  have hsame : b.SameButUse b' := by
    rcases hb with rfl | rfl
    · exact Or.inl rfl
    · exact decided_same s c b
  refine ⟨fun hr calls hcalls => ?_, fun ha calls hcalls => ?_, fun v secret key old role => hsame.raised, ?_⟩
  · exact (hsame.stricter.1.trans (stricter_ruled b' hcalls)).refuses hr
  · exact ((ruled_stricter b' hcalls).trans hsame.stricter.2).admits ha
  · intro deny hdeny allow _ henabled _ hmatches _ hfree hlocal key
    obtain ⟨st, hst⟩ : ∃ st, b.database = .ready st := by
      by_contra hnone
      rw [store_unready (not_exists.mp hnone)] at hdeny
      cases hdeny
    rw [store_eq hst] at hdeny
    have hverdict : Gate.verdict s st { c with key } = _ :=
      Gate.verdict_of_denied (Gate.exempt_eq_false hfree hlocal) hdeny henabled hmatches
    rw [Gate.evaluate_eq hst, hverdict]

/-- A key of a writer. -/
def writerKey : ApiKey := ⟨1, "writer", none, true, "write", 1000, none, none⟩

/-- Data with the key of a writer, a block that is allowed, and an address of it that is denied. -/
def ruledStore : Store where
  keys := [writerKey]
  allow := [⟨1, "10.0.0.0/24", true, 1000⟩]
  deny := [⟨1, "10.0.0.5/32", true, 1000⟩]

/-- A board with rules and a key. -/
def ruledBoard : Board := ⟨.ready ruledStore, .ticking 1000 1, ⟨fun _ => "", 0⟩⟩

/-- A read from an address. -/
def readFrom (clientIp : String) (key : Option String) : Gate.Caller := ⟨"GET", "/", key, clientIp⟩

/-- A stranger is turned away and a writer passes, whatever goes the same way; the denied address of the allowed block
is turned away even with the key. -/
theorem policy_is_monotone_with_rules :
    (ruledBoard.ruled [.add .deny "203.0.113.0/24", .remove .allow 1]).Refuses plainSettings
      (readFrom "203.0.113.9" none) ∧
    (ruledBoard.ruled [.add .allow "10.0.0.9", .remove .deny 1]).Admits plainSettings
      (readFrom "203.0.113.9" (some "writer")) ∧
    ((Gate.evaluate plainSettings (readFrom "203.0.113.9" (some "writer"))).on ((setRole 1 .admin).on ruledBoard).2).1 =
      .ok (.pass ⟨"203.0.113.9", some 1⟩) ∧
    ((Gate.evaluate plainSettings (readFrom "10.0.0.5" (some "writer"))).on ruledBoard).1 =
      .ok (.deny (.address "10.0.0.5")) := by
  have hstranger : Gate.verdict plainSettings ruledStore (readFrom "203.0.113.9" none) = .deny (.noKey .read) := by
    decide +kernel
  have hwriter : Gate.verdict plainSettings ruledStore (readFrom "203.0.113.9" (some "writer")) =
      .pass ⟨"203.0.113.9", some 1⟩ := by decide +kernel
  have hdeny : Net.cidrMatches "10.0.0.5/32" "10.0.0.5" = true := by decide +kernel
  have hallow : Net.cidrMatches "10.0.0.0/24" "10.0.0.5" = true := by decide +kernel
  have hpass := (Gate.evaluate_eq (b := ruledBoard) rfl).trans (congrArg Except.ok hwriter)
  refine ⟨?_, ?_, ?_, ?_⟩
  · refine (policy_is_monotone plainSettings _ (.inl rfl)).1 (refuses_iff.mpr ⟨_, rfl, _, hstranger⟩) _ ?_
    simp [RuleCall.Tightens]
  · refine (policy_is_monotone plainSettings _ (.inl rfl)).2.1 ⟨_, hpass⟩ _ ?_
    simp [RuleCall.Loosens]
  · exact (policy_is_monotone plainSettings _ (.inl rfl)).2.2.1 _ "writer" writerKey .write .admin hpass rfl rfl rfl
      (Role.named?_name .write) (by decide)
  · exact (policy_is_monotone plainSettings (readFrom "10.0.0.5" none) (.inl rfl)).2.2.2 _ (List.mem_singleton_self _) _
      (List.mem_singleton_self _) rfl rfl hdeny hallow rfl (fun h => Bool.false_ne_true h.1) (some "writer")

end Pasteboard
