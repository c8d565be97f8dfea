import Pasteboard.Proofs.Board.Effect
/-!
Operations on keys and address rules.

Whatever such an operation is, it does one of five things to the data: nothing, a new key, changes of keys that
leave their ids, secrets and times of issue alone, the deletion of a key, or other rules on a list. What all of
them keep is read off these cases.
-/

namespace Pasteboard

/-- An operation that changes keys or address rules. -/
inductive AccessCall
  | issueKey (role : Role) (label : Option String) (enabled : Bool)
  | setRole (id : Int) (role : Role)
  | setLabel (id : Int) (label : Option String)
  | setEnabled (id : Int) (enabled : Bool)
  | deleteKey (id : Int)
  | touchKey (id : Int) (ip : String)
  | overwriteRole (id : Int) (role : String)
  | addRule (list : RuleList) (cidr : String)
  | removeRule (list : RuleList) (id : Int)
  | switchRule (list : RuleList) (id : Int) (enabled : Bool)

/-- The board after an operation on keys or rules. -/
def AccessCall.on (b : Board) : AccessCall → Board
  | .issueKey role label enabled => ((Board.issueKey role label enabled).on b).2
  | .setRole id role => ((Board.setRole id role).on b).2
  | .setLabel id label => ((Board.setLabel id label).on b).2
  | .setEnabled id enabled => ((Board.setEnabled id enabled).on b).2
  | .deleteKey id => ((Board.deleteKey id).on b).2
  | .touchKey id ip => ((Board.touchKey id ip).on b).2
  | .overwriteRole id role => ((Board.overwriteRole id role).on b).2
  | .addRule which cidr => ((Board.addRule which cidr).on b).2
  | .removeRule which id => ((Board.removeRule which id).on b).2
  | .switchRule which id enabled => ((Board.switchRule which id enabled).on b).2

/-- What of a key never changes: its id, its secret, and the time when it was issued. -/
structure Issuance where
  id : Int
  secret : String
  time : Int
  deriving DecidableEq

def ApiKey.issuance (k : ApiKey) : Issuance := ⟨k.id, k.secret, k.createdAt⟩

theorem ApiKey.issuance_edited {f : ApiKey → ApiKey} (hf : ∀ k, (f k).issuance = k.issuance) (id : Int) (k : ApiKey) :
    (if k.id == id then f k else k).issuance = k.issuance := by
  by_cases hid : (k.id == id) = true
  · rw [if_pos hid, hf]
  · rw [if_neg hid]

namespace Store

/-- What an operation on keys or rules does to the data. -/
inductive Accessed (s : Store) : Store → Prop
  | same : Accessed s s
  | issued {secret : String} {role : Role} {label : Option String} {enabled : Bool} {now : Int} {key : ApiKey}
      {t : Store} (h : s.issueKey secret role label enabled now = .ok (key, t)) : Accessed s t
  | edited {f : ApiKey → ApiKey} (h : ∀ k, (f k).issuance = k.issuance) : Accessed s { s with keys := s.keys.map f }
  | deleted {id : Int} {t : Store} (h : s.deleteKey id = .ok t) : Accessed s t
  | ruled (list : RuleList) (rules : List IpRule) : Accessed s (s.setRules list rules)

variable {s t : Store} {id now : Int} {secret : String} {role : Role} {label : Option String} {enabled : Bool}
    {key : ApiKey}

theorem issueKey_eq_ok (h : s.issueKey secret role label enabled now = .ok (key, t)) :
    key = ⟨nextId (s.keys.map (·.id)), secret, label, enabled, role.name, now, none, none⟩ ∧
      t = { s with keys := s.keys ++ [key] } := by
  unfold issueKey at h
  split at h <;> cases h
  exact ⟨rfl, rfl⟩

theorem deleteKey_eq_ok (h : s.deleteKey id = .ok t) : s.keys.any (·.id == id) = true ∧ t = { s with
    keys := s.keys.filter (·.id != id)
    log := s.log.map fun e => if e.byKeyId == some id then { e with byKeyId := none } else e } := by
  unfold deleteKey at h
  split at h <;> cases h
  exact ⟨‹_›, rfl⟩

/-- Rules that an operation can make of those of a list: they have the texts that rules had, or normal texts of
blocks. -/
def Rewords (s : Store) (list : RuleList) (rules : List IpRule) : Prop :=
  ∀ r ∈ rules, (∃ old ∈ s.rules list, old.cidr = r.cidr) ∨ ∃ text, Net.normalizeCidr text = .ok r.cidr

/-! ### What stays -/

theorem Accessed.slots (h : s.Accessed t) : t.slots = s.slots := by
  cases h with
  | same | edited => rfl
  | issued h => rw [(issueKey_eq_ok h).2]
  | deleted h => rw [(deleteKey_eq_ok h).2]
  | ruled list => cases list <;> rfl

theorem Accessed.index (h : s.Accessed t) : t.index = s.index := by
  cases h with
  | same | edited => rfl
  | issued h => rw [(issueKey_eq_ok h).2]
  | deleted h => rw [(deleteKey_eq_ok h).2]
  | ruled list => cases list <;> rfl

end Store

/-! ### Every operation -/

namespace Board
open Store

variable {R : Store → Store → Prop} {b : Board} {id : Int} {list : RuleList}

/-! A change of keys or rules moves the data as a relation says if what it makes of them does. -/

theorem updateKey_edited {f : ApiKey → ApiKey} (hrefl : ∀ s, R s s)
    (hedit : ∀ s : Store, R s { s with keys := s.keys.map fun k => if k.id == id then f k else k }) :
    Moves R (change .keys (Store.updateKey id f)) := by
  refine .change hrefl fun s t h => ?_
  unfold Store.updateKey at h
  split at h <;> cases h
  exact hedit s

theorem touchKey_edited {ip : String} (hrefl : ∀ s, R s s) (hedit : ∀ (s : Store) now, R s (s.touchKey id ip now)) :
    Moves R (touchKey id ip) := by
  refine .bind hrefl opened_readonly fun _ => .bind hrefl readClock_readonly fun now => .change hrefl fun s t h => ?_
  cases h
  exact hedit s now

theorem overwriteRole_edited {role : String} (hrefl : ∀ s, R s s)
    (hedit : ∀ s : Store, R s (s.overwriteRole id role).2) : Moves R (overwriteRole id role) := by
  refine .store hrefl Prod.snd (fun s made h => ?_) fun _ _ => rfl
  cases h
  exact hedit s

theorem addRule_ruled {cidr : String} (hrefl : ∀ s, R s s)
    (hset : ∀ (s : Store) rules, s.Rewords list rules → R s (s.setRules list rules)) : Moves R (addRule list cidr) := by
  have hkeep (block : String) (now : Int) (hblock : Net.normalizeCidr cidr = .ok block) :
      Moves R (ask (.rules list) (·.addRule list block now) >>=
        fun made => save made.2 >>= fun _ => (pure made.1 : Action IpRule)) := by
    refine .store hrefl Prod.snd (fun s made h => ?_) fun _ _ => rfl
    unfold Store.addRule at h
    dsimp only at h
    split at h <;> cases h
    refine hset s _ fun r hr => ?_
    rcases List.mem_append.mp hr with hr | hr
    · exact Or.inl ⟨r, hr, rfl⟩
    · obtain rfl := List.mem_singleton.mp hr
      exact Or.inr ⟨cidr, hblock⟩
  unfold addRule
  dsimp only
  cases htext : Net.normalizeCidr cidr with
  | error fault => exact fun b => hrefl b.store
  | ok block =>
    refine .of_known (r := .ok block) hrefl fun known hknown => ?_
    obtain rfl := Except.ok.inj hknown
    exact .bind hrefl readClock_readonly fun _ => hkeep block _ htext

theorem removeRule_ruled (hrefl : ∀ s, R s s)
    (hset : ∀ (s : Store) rules, s.Rewords list rules → R s (s.setRules list rules)) :
    Moves R (removeRule list id) := by
  refine .change hrefl fun s t h => ?_
  unfold Store.removeRule at h
  dsimp only at h
  split at h <;> cases h
  exact hset s _ fun r hr => Or.inl ⟨r, (List.mem_filter.mp hr).1, rfl⟩

theorem switchRule_ruled {enabled : Bool} (hrefl : ∀ s, R s s)
    (hset : ∀ (s : Store) rules, s.Rewords list rules → R s (s.setRules list rules)) :
    Moves R (switchRule list id enabled) := by
  refine .store hrefl Prod.snd (fun s made h => ?_) fun _ _ => rfl
  cases h
  refine hset s _ fun r hr => ?_
  obtain ⟨old, hold, rfl⟩ := List.mem_map.mp hr
  refine Or.inl ⟨old, hold, ?_⟩
  by_cases hid : (old.id == id) = true
  · rw [if_pos hid]
  · rw [if_neg hid]

theorem issueKey_moves {role : Role} {label : Option String} {enabled : Bool} (hrefl : ∀ s, R s s)
    (hissue : ∀ {s t : Store} {secret : String} {now : Int} {key : ApiKey},
      s.issueKey secret role label enabled now = .ok (key, t) → R s t) : Moves R (issueKey role label enabled) := by
  refine .bind hrefl opened_readonly fun _ => .bind hrefl readClock_readonly fun now => .bind hrefl .get fun b => ?_
  exact .store hrefl Prod.snd (fun s made h => hissue h) fun _ _ => rfl

theorem issueKey_accessed {role : Role} {label : Option String} {enabled : Bool} :
    Moves Accessed (issueKey role label enabled) := issueKey_moves (fun _ => .same) .issued

theorem changeKey_accessed {f : ApiKey → ApiKey} (hf : ∀ k, (f k).issuance = k.issuance) :
    Moves Accessed (change .keys (Store.updateKey id f)) :=
  updateKey_edited (fun _ => .same) fun _ => .edited (ApiKey.issuance_edited hf id)

theorem setRole_accessed {role : Role} : Moves Accessed (setRole id role) := changeKey_accessed fun _ => rfl

theorem setLabel_accessed {label : Option String} : Moves Accessed (setLabel id label) :=
  changeKey_accessed fun _ => rfl

theorem setEnabled_accessed {enabled : Bool} : Moves Accessed (setEnabled id enabled) := changeKey_accessed fun _ => rfl

theorem deleteKey_accessed : Moves Accessed (deleteKey id) := .change (fun _ => .same) fun _ _ h => .deleted h

theorem touchKey_accessed {ip : String} : Moves Accessed (touchKey id ip) :=
  touchKey_edited (fun _ => .same) fun _ now =>
    .edited (ApiKey.issuance_edited (f := fun k => { k with lastUsedAt := some now, lastIp := some ip })
      (fun _ => rfl) id)

theorem overwriteRole_accessed {role : String} : Moves Accessed (overwriteRole id role) :=
  overwriteRole_edited (fun _ => .same) fun _ =>
    .edited (ApiKey.issuance_edited (f := fun k => { k with role }) (fun _ => rfl) id)

theorem addRule_accessed {cidr : String} : Moves Accessed (addRule list cidr) :=
  addRule_ruled (fun _ => .same) fun _ rules _ => .ruled list rules

theorem removeRule_accessed : Moves Accessed (removeRule list id) :=
  removeRule_ruled (fun _ => .same) fun _ rules _ => .ruled list rules

theorem switchRule_accessed {enabled : Bool} : Moves Accessed (switchRule list id enabled) :=
  switchRule_ruled (fun _ => .same) fun _ rules _ => .ruled list rules

end Board

open Board in
theorem AccessCall.accessed (b : Board) (call : AccessCall) : b.store.Accessed (call.on b).store := by
  cases call <;> rw [AccessCall.on]
  case issueKey => exact issueKey_accessed.on b
  case setRole => exact setRole_accessed.on b
  case setLabel => exact setLabel_accessed.on b
  case setEnabled => exact setEnabled_accessed.on b
  case deleteKey => exact deleteKey_accessed.on b
  case touchKey => exact touchKey_accessed.on b
  case overwriteRole => exact overwriteRole_accessed.on b
  case addRule => exact addRule_accessed.on b
  case removeRule => exact removeRule_accessed.on b
  case switchRule => exact switchRule_accessed.on b

end Pasteboard
