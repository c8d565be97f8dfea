import Pasteboard.Proofs.Access.Gate
/-!
The decision on a caller as a function of the data.

The address of a caller decides first, and the keys only where it decides nothing. Of the rules no more is read than
whether one that is enabled matches, and of the keys nothing that their use changes.
-/

namespace Pasteboard
open Board

/-- A key as it was before it was ever used. -/
def ApiKey.unused (k : ApiKey) : ApiKey := { k with lastUsedAt := none, lastIp := none }

theorem Store.findKey_unused (s : Store) (secret : String) :
    (s.findKey secret).map ApiKey.unused =
      (s.keys.map ApiKey.unused).find? fun k => k.secret == secret && k.enabled := by
  rw [List.find?_map]
  rfl

namespace Gate
variable {s : Settings} {c : Caller} {b : Board} {st : Store}

/-- Who passes whatever is stored: everyone without authentication, and a reader on this machine where that is
allowed. -/
def exempt (s : Settings) (c : Caller) : Bool :=
  s.noAuth || (s.allowLocalhost && isRead c.method c.path && Net.isLoopback c.clientIp)

/-- The decision that the address of a caller makes, if it makes one. -/
def byAddress (s : Settings) (st : Store) (c : Caller) : Option Decision :=
  if exempt s c then some (.pass ⟨c.clientIp, none⟩)
  else if Net.matchesAny (st.enabledCidrs .deny) c.clientIp then some (.deny (.address c.clientIp))
  else if Net.matchesAny (st.enabledCidrs .allow) c.clientIp then some (.pass ⟨c.clientIp, none⟩)
  else none

/-- The decision that the keys make. -/
def byKeys (st : Store) (c : Caller) : Decision :=
  if st.keys = [] then .pass ⟨c.clientIp, none⟩
  else match c.key with
    | none => .deny (.noKey (required c.method c.path))
    | some secret => match st.findKey secret with
      | none => .deny .unknownKey
      | some key =>
        if (required c.method c.path).metBy (Role.named? key.role) then .pass ⟨c.clientIp, some key.id⟩
        else .deny (.weakRole key.role (required c.method c.path))

/-- The decision on a caller. -/
def verdict (s : Settings) (st : Store) (c : Caller) : Decision := (byAddress s st c).getD (byKeys st c)

/-! ### The gate gives the verdict -/

theorem evaluate_of_exempt (h : exempt s c = true) (b : Board) :
    (evaluate s c).on b = (.ok (.pass ⟨c.clientIp, none⟩), b) := by
  rcases Bool.or_eq_true_iff.mp h with hfree | hlocal
  · unfold evaluate
    dsimp only
    rw [if_pos hfree, Action.on_pure]
  · rw [Bool.and_eq_true, Bool.and_eq_true] at hlocal
    exact evaluate_onMachine hlocal.1.1 hlocal.1.2 hlocal.2 b

theorem decideByKey_eq (h : b.database = .ready st) (hkeys : st.keys ≠ []) :
    ((decideByKey c).on b).1 = .ok (byKeys st c) := by
  have hfind (secret : String) : (findKey secret).on b = (.ok (st.findKey secret), b) := on_ask h
  unfold decideByKey byKeys
  rw [if_neg hkeys]
  cases c.key with
  | none => rfl
  | some secret =>
    dsimp only
    rw [Action.on_bind_of_ok (hfind secret)]
    cases st.findKey secret with
    | none => rfl
    | some key =>
      dsimp only
      by_cases hmet : (required c.method c.path).metBy (Role.named? key.role) = true
      · rw [if_pos hmet, if_pos hmet, Action.on_bind_of_ok (on_touchKey h _ _)]
        rfl
      · rw [if_neg hmet, if_neg hmet]
        rfl

/-- With tables the gate decides as the verdict says. -/
theorem evaluate_eq (h : b.database = .ready st) : ((evaluate s c).on b).1 = .ok (verdict s st c) := by
  by_cases hexempt : exempt s c = true
  · rw [evaluate_of_exempt hexempt, verdict, byAddress, if_pos hexempt, Option.getD_some]
  have hrules (list : RuleList) : (enabledCidrs list).on b = (.ok (st.enabledCidrs list), b) := on_ask h
  have hcount : countKeys.on b = (.ok st.keys.length, b) := on_ask h
  obtain ⟨hfree, hlocal⟩ := not_or.mp (mt Bool.or_eq_true_iff.mpr hexempt)
  unfold evaluate verdict byAddress
  dsimp only
  rw [if_neg hfree, if_neg hlocal, if_neg hexempt, Action.on_bind_of_ok (hrules .deny)]
  by_cases hdenied : Net.matchesAny (st.enabledCidrs .deny) c.clientIp = true
  · rw [if_pos hdenied, if_pos hdenied, Action.on_pure, Option.getD_some]
  rw [if_neg hdenied, if_neg hdenied, Action.on_bind_of_ok (hrules .allow)]
  by_cases hlisted : Net.matchesAny (st.enabledCidrs .allow) c.clientIp = true
  · rw [if_pos hlisted, if_pos hlisted, Action.on_pure, Option.getD_some]
  rw [if_neg hlisted, if_neg hlisted, Option.getD_none, Action.on_bind_of_ok hcount]
  by_cases hkeys : st.keys = []
  · rw [if_pos (List.length_eq_zero_iff.mpr hkeys), Action.on_pure, byKeys, if_pos hkeys]
  · rw [if_neg (mt List.length_eq_zero_iff.mp hkeys)]
    exact decideByKey_eq h hkeys

/-- Without tables nobody but the exempt passes, and nobody is turned away. -/
theorem evaluate_unready (h : ∀ st, b.database ≠ .ready st) (hexempt : exempt s c = false) :
    ∃ e, ((evaluate s c).on b).1 = .error e := by
  obtain ⟨hfree, hlocal⟩ := Bool.or_eq_false_iff.mp hexempt
  obtain ⟨e, he⟩ := on_ask_unready (.rules .deny) (fun st => .ok (st.enabledCidrs .deny)) h
  unfold evaluate
  dsimp only
  rw [hfree, hlocal, if_neg Bool.false_ne_true, if_neg Bool.false_ne_true, Action.on_bind, enabledCidrs, he]
  exact ⟨e, rfl⟩

end Gate

end Pasteboard
