import Mathlib.Data.List.Forall2
import Pasteboard.Access.Gate
import Pasteboard.Proofs.Board.Effect
/-!
Who passes the gate, and what the gate leaves behind.

The gate lets a caller pass in one of five ways, and turns it away or fails without touching the data. A caller
that passes by a key has its use noted on that key, and nothing else of the data changes.
-/

namespace Pasteboard
open Board

/-! ### What a store grants -/

namespace Store
variable {s t : Store} {roles : List Role} {secret : String} {id : Int}

/-- A secret is that of an enabled key whose stored role is one of some roles. -/
def Vouches (s : Store) (roles : List Role) (secret : String) : Prop :=
  ∃ key ∈ s.keys, key.secret = secret ∧ key.enabled = true ∧ ∃ role ∈ roles, Role.named? key.role = some role

/-- A caller may do what asks for one of some roles: its address is not denied, and it is allowed, there are no
keys, or the caller presents a key with one of the roles. -/
def Grants (s : Store) (roles : List Role) (c : Gate.Caller) : Prop :=
  Net.matchesAny (s.enabledCidrs .deny) c.clientIp = false ∧
    (Net.matchesAny (s.enabledCidrs .allow) c.clientIp = true ∨ s.keys = [] ∨
      ∃ secret, c.key = some secret ∧ s.Vouches roles secret)

/-- Two stores are the same but for when and from where the key with an id was used. -/
structure SameButUse (id : Int) (s t : Store) : Prop where
  slots : t.slots = s.slots
  log : t.log = s.log
  allow : t.allow = s.allow
  deny : t.deny = s.deny
  index : t.index = s.index
  keys : List.Forall₂ (fun k k' => k' = k ∨
    k.id = id ∧ k' = { k with lastUsedAt := k'.lastUsedAt, lastIp := k'.lastIp }) s.keys t.keys

theorem findKey_eq_some {key : ApiKey} (h : s.findKey secret = some key) :
    key ∈ s.keys ∧ key.secret = secret ∧ key.enabled = true := by
  have hsel := List.find?_some h
  rw [Bool.and_eq_true, beq_iff_eq] at hsel
  exact ⟨List.mem_of_find?_eq_some h, hsel⟩

theorem touchKey_same (id : Int) (ip : String) (now : Int) (s : Store) : SameButUse id s (s.touchKey id ip now) where
  slots := rfl
  log := rfl
  allow := rfl
  deny := rfl
  index := rfl
  keys := by
    show List.Forall₂ _ s.keys (s.keys.map _)
    rw [List.forall₂_map_right_iff]
    refine List.forall₂_same.mpr fun k _ => ?_
    by_cases hk : k.id = id
    · rw [if_pos (beq_iff_eq.mpr hk)]
      exact Or.inr ⟨hk, rfl⟩
    · rw [if_neg (by simpa using hk)]
      exact Or.inl rfl

/-- Whatever of a key does not depend on its use is the same. -/
theorem SameButUse.map_keys {α : Type} (h : SameButUse id s t) {f : ApiKey → α}
    (hf : ∀ k used ip, f { k with lastUsedAt := used, lastIp := ip } = f k) : t.keys.map f = s.keys.map f := by
  have hkeys := h.keys
  generalize s.keys = keys, t.keys = keys' at hkeys
  induction hkeys with
  | nil => rfl
  | cons hkey _ ih =>
    rw [List.map_cons, List.map_cons, ih]
    rcases hkey with rfl | ⟨-, hkey⟩
    · rfl
    · rw [hkey, hf]

/-- An edit of keys that leaves alone what they are found by edits the key that is found. -/
theorem findKey_map {f : ApiKey → ApiKey} (hf : ∀ k, (f k).secret = k.secret ∧ (f k).enabled = k.enabled) (s : Store)
    (secret : String) : Store.findKey secret { s with keys := s.keys.map f } = (s.findKey secret).map f := by
  have hsame : (fun k : ApiKey => k.secret == secret && k.enabled) ∘ f = fun k => k.secret == secret && k.enabled := by
    funext k
    rw [Function.comp_apply, (hf k).1, (hf k).2]
  rw [findKey, List.find?_map, hsame]
  rfl

/-- The key with a secret is the same after a use was noted, but for that. -/
theorem findKey_touchKey {ip : String} {now : Int} {key : ApiKey} (h : s.findKey secret = some key) :
    ∃ key', (s.touchKey id ip now).findKey secret = some key' ∧ key'.role = key.role := by
  have hfound : (s.touchKey id ip now).findKey secret = _ := findKey_map (fun k => ?_) s secret
  · refine ⟨_, by rw [hfound, h, Option.map_some], ?_⟩
    split <;> rfl
  · split <;> exact ⟨rfl, rfl⟩

theorem Vouches.of_touchKey {ip : String} {now : Int} (h : (s.touchKey id ip now).Vouches roles secret) :
    s.Vouches roles secret := by
  obtain ⟨key', hkey', hsecret, henabled, role, hrole, hnamed⟩ := h
  obtain ⟨key, hkey, rfl⟩ := List.mem_map.mp hkey'
  by_cases hid : (key.id == id) = true
  · rw [if_pos hid] at hsecret henabled hnamed
    exact ⟨key, hkey, hsecret, henabled, role, hrole, hnamed⟩
  · rw [if_neg hid] at hsecret henabled hnamed
    exact ⟨key, hkey, hsecret, henabled, role, hrole, hnamed⟩

end Store

namespace Gate
variable {s : Settings} {c : Caller} {b b' : Board}

/-! ### Requirements -/

theorem metBy_iff {required : Role} {stored : Option Role} :
    required.metBy stored = true ↔ ∃ role, stored = some role ∧ required.rank ≤ role.rank := by
  cases stored <;> simp [Role.metBy]

/-! ### Passing -/

/-- The ways to pass the gate, with the key that is noted and the board afterwards. -/
inductive Passes (s : Settings) (c : Caller) (b : Board) : Option Int → Board → Prop
  | free (noAuth : s.noAuth = true) : Passes s c b none b
  | onMachine (allowed : s.allowLocalhost = true) (reads : isRead c.method c.path = true)
      (loopback : Net.isLoopback c.clientIp = true) : Passes s c b none b
  | listed {st : Store} (ready : b.database = .ready st)
      (undenied : Net.matchesAny (st.enabledCidrs .deny) c.clientIp = false)
      (listed : Net.matchesAny (st.enabledCidrs .allow) c.clientIp = true) : Passes s c b none b
  | keyless {st : Store} (ready : b.database = .ready st)
      (undenied : Net.matchesAny (st.enabledCidrs .deny) c.clientIp = false) (keyless : st.keys = []) :
      Passes s c b none b
  | byKey {st : Store} {key : ApiKey} {secret : String} {role : Role} (ready : b.database = .ready st)
      (undenied : Net.matchesAny (st.enabledCidrs .deny) c.clientIp = false) (presented : c.key = some secret)
      (found : st.findKey secret = some key) (named : Role.named? key.role = some role)
      (met : (required c.method c.path).rank ≤ role.rank) :
      Passes s c b (some key.id) (b.ticked.storing (st.touchKey key.id c.clientIp b.now))

/-- The reasons to be turned away. -/
inductive Denied (c : Caller) (b : Board) : Denial → Prop
  | address {st : Store} (ready : b.database = .ready st)
      (denied : Net.matchesAny (st.enabledCidrs .deny) c.clientIp = true) : Denied c b (.address c.clientIp)
  | noKey (absent : c.key = none) : Denied c b (.noKey (required c.method c.path))
  | unknownKey {st : Store} {secret : String} (ready : b.database = .ready st) (presented : c.key = some secret)
      (unknown : st.findKey secret = none) : Denied c b .unknownKey
  | weakRole {st : Store} {key : ApiKey} {secret : String} (ready : b.database = .ready st)
      (presented : c.key = some secret) (found : st.findKey secret = some key)
      (unmet : (required c.method c.path).metBy (Role.named? key.role) = false) :
      Denied c b (.weakRole key.role (required c.method c.path))

/-- The decision on a caller, and the board afterwards. -/
inductive Decided (s : Settings) (c : Caller) (b : Board) : Except StoreError Decision × Board → Prop
  | passes {id : Option Int} {b' : Board} (h : Passes s c b id b') : Decided s c b (.ok (.pass ⟨c.clientIp, id⟩), b')
  | denied {denial : Denial} (h : Denied c b denial) : Decided s c b (.ok (.deny denial), b)
  | failed {e : StoreError} (unready : ∀ st, b.database ≠ .ready st) : Decided s c b (.error e, b)

theorem on_touchKey {st : Store} (h : b.database = .ready st) (id : Int) (ip : String) :
    (touchKey id ip).on b = (.ok (), b.ticked.storing (st.touchKey id ip b.now)) := by
  rw [touchKey, Action.on_bind_of_ok (on_opened h), Action.on_bind_of_ok on_readClock, on_change (b := b.ticked) h]

theorem decideByKey_decided {st : Store} (h : b.database = .ready st)
    (undenied : Net.matchesAny (st.enabledCidrs .deny) c.clientIp = false) :
    Decided s c b ((decideByKey c).on b) := by
  unfold decideByKey
  cases hkey : c.key with
  | none => exact .denied (.noKey hkey)
  | some secret =>
    have hfind : (findKey secret).on b = (.ok (st.findKey secret), b) := on_ask h
    dsimp only
    rw [Action.on_bind_of_ok hfind]
    cases hfound : st.findKey secret with
    | none => exact .denied (.unknownKey h hkey hfound)
    | some key =>
      dsimp only
      by_cases hmet : (required c.method c.path).metBy (Role.named? key.role) = true
      · obtain ⟨role, hnamed, hrank⟩ := metBy_iff.mp hmet
        rw [if_pos hmet, Action.on_bind_of_ok (on_touchKey h _ _)]
        exact .passes (.byKey h undenied hkey hfound hnamed hrank)
      · rw [if_neg hmet]
        exact .denied (.weakRole h hkey hfound (Bool.not_eq_true _ ▸ hmet))

/-- The gate lets a caller pass for one of the five reasons, or leaves the board alone. -/
theorem evaluate_decided (s : Settings) (c : Caller) (b : Board) : Decided s c b ((evaluate s c).on b) := by
  unfold evaluate
  dsimp only
  by_cases hfree : s.noAuth = true
  · rw [if_pos hfree]
    exact .passes (.free hfree)
  rw [if_neg hfree]
  by_cases hlocal : (s.allowLocalhost && isRead c.method c.path && Net.isLoopback c.clientIp) = true
  · rw [if_pos hlocal]
    rw [Bool.and_eq_true, Bool.and_eq_true] at hlocal
    exact .passes (.onMachine hlocal.1.1 hlocal.1.2 hlocal.2)
  rw [if_neg hlocal]
  -- From here on the stored rules and keys are needed.
  by_cases hready : ∃ st, b.database = .ready st
  · obtain ⟨st, hst⟩ := hready
    have hrules (list : RuleList) : (enabledCidrs list).on b = (.ok (st.enabledCidrs list), b) := on_ask hst
    have hcount : countKeys.on b = (.ok st.keys.length, b) := on_ask hst
    rw [Action.on_bind_of_ok (hrules .deny)]
    by_cases hdenied : Net.matchesAny (st.enabledCidrs .deny) c.clientIp = true
    · rw [if_pos hdenied]
      exact .denied (.address hst hdenied)
    rw [if_neg hdenied, Action.on_bind_of_ok (hrules .allow)]
    rw [Bool.not_eq_true] at hdenied
    by_cases hlisted : Net.matchesAny (st.enabledCidrs .allow) c.clientIp = true
    · rw [if_pos hlisted]
      exact .passes (.listed hst hdenied hlisted)
    rw [if_neg hlisted, Action.on_bind_of_ok hcount]
    by_cases hkeys : st.keys.length = 0
    · rw [if_pos hkeys]
      exact .passes (.keyless hst hdenied (List.length_eq_zero_iff.mp hkeys))
    rw [if_neg hkeys]
    exact decideByKey_decided hst hdenied
  · obtain ⟨e, he⟩ := on_ask_unready (.rules .deny) (fun st => .ok (st.enabledCidrs .deny))
      fun st hst => hready ⟨st, hst⟩
    rw [Action.on_bind, enabledCidrs, he]
    exact .failed fun st hst => hready ⟨st, hst⟩

/-! ### What passing means -/

namespace Passes
variable {id : Option Int}

/-- A caller that passes is free to, reads on this machine, or was granted a role that meets the requirement. -/
theorem granted (h : Passes s c b id b') {roles : List Role}
    (hroles : ∀ role : Role, (required c.method c.path).rank ≤ role.rank → role ∈ roles) :
    s.noAuth = true ∨
      (s.allowLocalhost = true ∧ isRead c.method c.path = true ∧ Net.isLoopback c.clientIp = true) ∨
      ∃ st, b.database = .ready st ∧ st.Grants roles c := by
  cases h with
  | free noAuth => exact Or.inl noAuth
  | onMachine allowed reads loopback => exact Or.inr (Or.inl ⟨allowed, reads, loopback⟩)
  | listed ready undenied listed => exact Or.inr (Or.inr ⟨_, ready, undenied, Or.inl listed⟩)
  | keyless ready undenied keyless => exact Or.inr (Or.inr ⟨_, ready, undenied, Or.inr (Or.inl keyless)⟩)
  | byKey ready undenied presented found named met =>
    obtain ⟨hmem, hsecret, henabled⟩ := Store.findKey_eq_some found
    exact Or.inr (Or.inr ⟨_, ready, undenied, Or.inr (Or.inr ⟨_, presented, _, hmem, hsecret, henabled, _,
      hroles _ met, named⟩)⟩)

/-- Only the use of the key that was passed by is noted. -/
theorem noted (h : Passes s c b id b') : b'.database = b.database ∨
    ∃ key st t, id = some key ∧ b.database = .ready st ∧ b'.database = .ready t ∧ st.SameButUse key t := by
  cases h with
  | free | onMachine | listed | keyless => exact Or.inl rfl
  | byKey ready => exact Or.inr ⟨_, _, _, rfl, ready, rfl, Store.touchKey_same _ _ _ _⟩

theorem found_after (h : Passes s c b id b') {st : Store} {secret : String} {key : ApiKey}
    (ready : b.database = .ready st) (found : st.findKey secret = some key) :
    ∃ st' key', b'.database = .ready st' ∧ st'.findKey secret = some key' ∧ key'.role = key.role := by
  cases h with
  | free | onMachine | listed | keyless => exact ⟨st, key, ready, found, rfl⟩
  | byKey ready' =>
    cases ready.symm.trans ready'
    obtain ⟨key', hfound, hrole⟩ := Store.findKey_touchKey found
    exact ⟨_, key', rfl, hfound, hrole⟩

/-- Passing makes no secret one of a key with a role. -/
theorem vouched_before (h : Passes s c b id b') {roles : List Role} {secret : String}
    (hv : ∃ st, b'.database = .ready st ∧ st.Vouches roles secret) :
    ∃ st, b.database = .ready st ∧ st.Vouches roles secret := by
  cases h with
  | free | onMachine | listed | keyless => exact hv
  | byKey ready =>
    obtain ⟨st, hst, hv⟩ := hv
    cases hst
    exact ⟨_, ready, hv.of_touchKey⟩

end Passes

/-- The second gate lets pass who presents no key, or one of an admin. -/
theorem evaluateAdmin_passes {key : Option String} (h : (evaluateAdmin key).on b = (.ok none, b')) :
    ∀ secret, key = some secret → ∃ st, b.database = .ready st ∧ st.Vouches [.admin] secret := by
  rintro secret rfl
  unfold evaluateAdmin at h
  by_cases hready : ∃ st, b.database = .ready st
  · obtain ⟨st, hst⟩ := hready
    have hfind : (findKey secret).on b = (.ok (st.findKey secret), b) := on_ask hst
    dsimp only at h
    rw [Action.on_bind_of_ok hfind] at h
    by_cases hadmin : (st.findKey secret).bind (fun key => Role.named? key.role) = some .admin
    · obtain ⟨key, hfound, hnamed⟩ := Option.bind_eq_some_iff.mp hadmin
      obtain ⟨hmem, hsecret, henabled⟩ := Store.findKey_eq_some hfound
      exact ⟨st, hst, key, hmem, hsecret, henabled, .admin, List.mem_singleton_self _, hnamed⟩
    · rw [if_neg hadmin] at h
      cases h
  · obtain ⟨e, he⟩ := on_ask_unready .keys (fun st => .ok (st.findKey secret)) fun st hst => hready ⟨st, hst⟩
    dsimp only at h
    rw [Action.on_bind, findKey, he] at h
    cases h

theorem evaluateAdmin_readonly (key : Option String) : Readonly (evaluateAdmin key) := by
  cases key with
  | none => exact .pure _
  | some secret =>
    refine Readonly.bind findKey_readonly fun found => ?_
    by_cases hadmin : found.bind (fun key => Role.named? key.role) = some .admin
    · rw [if_pos hadmin]
      exact .pure _
    · rw [if_neg hadmin]
      exact .pure _

theorem evaluateAdmin_of_found {st : Store} {secret : String} {key : ApiKey} (ready : b.database = .ready st)
    (found : st.findKey secret = some key) (named : Role.named? key.role = some .admin) :
    (evaluateAdmin (some secret)).on b = (.ok none, b) := by
  have hfind : (findKey secret).on b = (.ok (st.findKey secret), b) := on_ask ready
  rw [evaluateAdmin, Action.on_bind_of_ok hfind, found, Option.bind_some, if_pos named, Action.on_pure]

/-! ### Who passes -/

/-- A secret that is not that of an enabled key is turned away, unless something else decides before. -/
theorem evaluate_unknown {st : Store} (ready : b.database = .ready st) (noAuth : s.noAuth = false)
    (hlocal : ¬(s.allowLocalhost = true ∧ isRead c.method c.path = true ∧ Net.isLoopback c.clientIp = true))
    (hlists : ∀ list, Net.matchesAny (st.enabledCidrs list) c.clientIp = false) (hkeys : st.keys ≠ []) {secret : String}
    (presented : c.key = some secret) (unknown : st.findKey secret = none) :
    (evaluate s c).on b = (.ok (.deny .unknownKey), b) := by
  have hdecided := evaluate_decided s c b
  generalize (evaluate s c).on b = outcome at hdecided ⊢
  cases hdecided with
  | passes hp =>
    cases hp with
    | free hfree => exact absurd (noAuth.symm.trans hfree) Bool.false_ne_true
    | onMachine allowed reads loopback => exact absurd ⟨allowed, reads, loopback⟩ hlocal
    | listed hready _ listed =>
      cases ready.symm.trans hready
      exact absurd ((hlists .allow).symm.trans listed) Bool.false_ne_true
    | keyless hready _ keyless =>
      cases ready.symm.trans hready
      exact absurd keyless hkeys
    | byKey hready _ presented' found =>
      cases ready.symm.trans hready
      cases presented.symm.trans presented'
      cases unknown.symm.trans found
  | denied hd =>
    cases hd with
    | address hready denied =>
      cases ready.symm.trans hready
      exact absurd ((hlists .deny).symm.trans denied) Bool.false_ne_true
    | noKey absent => cases presented.symm.trans absent
    | unknownKey => rfl
    | weakRole hready presented' found =>
      cases ready.symm.trans hready
      cases presented.symm.trans presented'
      cases unknown.symm.trans found
  | failed unready => exact absurd ready (unready st)

theorem passes_of_pass {visitor : Visitor} {id : Int}
    (h : (evaluate s c).on b = (.ok (.pass visitor), b')) (hid : visitor.keyId = some id) :
    Passes s c b (some id) b' := by
  have hdecided := evaluate_decided s c b
  rw [h] at hdecided
  cases hdecided with
  | passes hp =>
    cases hid
    exact hp

/-- Who passes by a key has presented the secret of an enabled one. -/
theorem Passes.presented {id : Int} (h : Passes s c b (some id) b') :
    ∃ key ∈ b.store.keys, key.id = id ∧ key.enabled = true ∧ c.key = some key.secret := by
  cases h with
  | byKey ready _ presented found =>
    obtain ⟨hmem, rfl, henabled⟩ := Store.findKey_eq_some found
    exact ⟨_, store_eq ready ▸ hmem, rfl, henabled, presented⟩

theorem evaluate_onMachine (allowed : s.allowLocalhost = true) (reads : isRead c.method c.path = true)
    (loopback : Net.isLoopback c.clientIp = true) (b : Board) :
    (evaluate s c).on b = (.ok (.pass ⟨c.clientIp, none⟩), b) := by
  unfold evaluate
  dsimp only
  by_cases hfree : s.noAuth = true
  · rw [if_pos hfree, Action.on_pure]
  · rw [if_neg hfree, allowed, reads, loopback]
    rfl

/-- A board with one key and no rules. -/
def keyBoard (key : ApiKey) : Board := ⟨.ready { keys := [key] }, .ticking 1000 1, ⟨fun _ => "", 0⟩⟩

theorem findKey_keyBoard {key : ApiKey} (enabled : key.enabled = true) :
    Store.findKey key.secret { keys := [key] } = some key := by
  simp [Store.findKey, enabled]

/-- Who presents the one key passes if its role meets the requirement. -/
theorem keyholder_passes (s : Settings) {key : ApiKey} {role : Role} (enabled : key.enabled = true)
    (presented : c.key = some key.secret) (named : Role.named? key.role = some role)
    (met : (required c.method c.path).rank ≤ role.rank) :
    ∃ id after, (evaluate s c).on (keyBoard key) = (.ok (.pass ⟨c.clientIp, id⟩), after) ∧
      Passes s c (keyBoard key) id after := by
  have hfound := findKey_keyBoard enabled
  have hdecided := evaluate_decided s c (keyBoard key)
  generalize (evaluate s c).on (keyBoard key) = outcome at hdecided ⊢
  cases hdecided with
  | passes hp => exact ⟨_, _, rfl, hp⟩
  | failed unready => exact absurd rfl (unready _)
  | denied hdenied =>
    -- Every reason to turn the caller away is at odds with the key on the board.
    cases hdenied with
    | address ready denied =>
      cases ready
      cases denied
    | noKey absent => cases presented.symm.trans absent
    | unknownKey ready presented' unknown =>
      cases ready
      cases presented.symm.trans presented'
      cases hfound.symm.trans unknown
    | weakRole ready presented' found unmet =>
      cases ready
      cases presented.symm.trans presented'
      cases hfound.symm.trans found
      rw [named] at unmet
      exact absurd met (of_decide_eq_false unmet)

end Gate

end Pasteboard
