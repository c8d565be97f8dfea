import Pasteboard.Proofs.Access.Rules
import Pasteboard.Proofs.Board.Reachable
import Pasteboard.Settings
/-!
Rules and trusted proxies are blocks.

What is typed as a rule or a trusted proxy is kept under the normal text of a block, or not at all. So whatever was
done, every text that an address is matched with is the normal text of a block.
-/

namespace Pasteboard
open Net Text

namespace Store
variable {s t : Store} {list which : RuleList} {rules : List IpRule}

/-- Every rule has the normal text of a block. -/
def Normal (s : Store) : Prop := ∀ list, ∀ r ∈ s.rules list, ∃ block : Cidr, block.text = r.cidr

/-- If every rule of the data has a normal text, so has every rule of the other data. -/
def StaysNormal (s t : Store) : Prop := s.Normal → t.Normal

theorem StaysNormal.refl (s : Store) : s.StaysNormal s := id

theorem StaysNormal.of_rules (h : ∀ list, t.rules list = s.rules list) : s.StaysNormal t := fun hs list r hr =>
  hs list r (h list ▸ hr)

theorem StaysNormal.setRules (h : s.Rewords which rules) : s.StaysNormal (s.setRules which rules) := by
  intro hs list r hr
  rw [rules_setRules] at hr
  by_cases hlist : which = list
  · subst hlist
    rw [if_pos rfl] at hr
    rcases h r hr with ⟨old, hold, hcidr⟩ | ⟨text, htext⟩
    · exact hcidr ▸ hs which old hold
    · obtain ⟨block, -, hblock⟩ := normalizeCidr_eq_ok.mp htext
      exact ⟨block, hblock⟩
  · rw [if_neg hlist] at hr
    exact hs list r hr

theorem Normal.enabled (h : s.Normal) (list : RuleList) :
    ∀ cidr ∈ s.enabledCidrs list, ∃ block : Cidr, block.text = cidr := by
  intro cidr hcidr
  obtain ⟨r, hr, rfl⟩ := List.mem_map.mp hcidr
  exact h list r (List.mem_filter.mp hr).1

/-- Keys and rules are kept apart. -/
theorem StaysNormal.of_keys (s : Store) (keys : List ApiKey) (log : List LogEntry) :
    s.StaysNormal { s with keys, log } :=
  .of_rules fun list => by cases list <;> rfl

/-- Rows and rules are, too. -/
theorem rules_changeRows {p : Row → Bool} {f : Row → Row} : (s.changeRows p f).rules list = s.rules list := by
  cases list <;> rfl

theorem rules_filled {c : Capacity} {now : Int} {x : Payload} : (s.filled c now x).rules list = s.rules list := by
  cases ht : s.target c with
  | some r => rw [filled, claim_of_some ht, setRow, rules_changeRows]
  | none =>
    rw [filled, claim_of_none ht, setRow, rules_changeRows]
    cases list <;> rfl

end Store

namespace AccessCall
open Board Store

theorem staysNormal (b : Board) (call : AccessCall) : b.store.StaysNormal (call.on b).store := by
  cases call <;> rw [AccessCall.on]
  case issueKey => exact (issueKey_moves .refl fun h => (issueKey_eq_ok h).2 ▸ .of_keys _ _ _).on b
  case setRole => exact (updateKey_edited .refl fun s => .of_keys s _ s.log).on b
  case setLabel => exact (updateKey_edited .refl fun s => .of_keys s _ s.log).on b
  case setEnabled => exact (updateKey_edited .refl fun s => .of_keys s _ s.log).on b
  case deleteKey => exact (Moves.change .refl fun _ _ h => (deleteKey_eq_ok h).2 ▸ .of_keys _ _ _).on b
  case touchKey => exact (touchKey_edited .refl fun s _ => .of_keys s _ s.log).on b
  case overwriteRole => exact (overwriteRole_edited .refl fun s => .of_keys s _ s.log).on b
  case addRule => exact (addRule_ruled .refl fun _ _ => .setRules).on b
  case removeRule => exact (removeRule_ruled .refl fun _ _ => .setRules).on b
  case switchRule => exact (switchRule_ruled .refl fun _ _ => .setRules).on b

end AccessCall

open Store in
/-- Every rule has a normal text, whatever was done. -/
theorem Board.Reachable.normal {b : Board} (h : b.Reachable) : b.store.Normal := by
  have hperformed {c : Capacity} {b b' : Board} {s t : Store} {call : SlotCall} {v : Option Int}
      (hp : Performed c b s call v b') (ht : b'.database = .ready t) (list : RuleList) :
      t.rules list = s.rules list := by
    cases hp <;> cases ht
    case insert => rw [trimmed, rules_changeRows, rules_filled]
    case rewrite => cases list <;> rfl
    case delete => rw [deleted, rules_changeRows]
  refine h.kept (by rintro (_ | _) r hr <;> cases hr) (fun s _ _ => StaysNormal.of_rules fun list => ?_)
    (fun hp ht => StaysNormal.of_rules (hperformed hp ht)) fun b call => call.staysNormal b
  cases list <;> rfl

/-- The trusted blocks have normal texts once they are read. -/
theorem Settings.proxiesFrom_normal {lookup : String → Option String} {proxies : List String}
    (h : Settings.proxiesFrom lookup = .ok proxies) : ∀ cidr ∈ proxies, ∃ block : Cidr, block.text = cidr := by
  unfold Settings.proxiesFrom at h
  generalize ((Settings.given lookup "KARING_TRUSTED_PROXIES").map commaParts).getD [] = entries at h
  induction entries generalizing proxies with
  | nil =>
    cases h
    exact nofun
  | cons entry entries ih =>
    rw [List.mapM_cons] at h
    cases hentry : normalizeCidr entry with
    | error fault =>
      rw [hentry] at h
      cases h
    | ok first =>
      rw [hentry] at h
      cases hrest : entries.mapM fun entry => (normalizeCidr entry).mapError (SettingsFault.trustedProxy entry) with
      | error fault =>
        rw [hrest] at h
        cases h
      | ok rest =>
        rw [hrest] at h
        cases h
        intro cidr hcidr
        rcases List.mem_cons.mp hcidr with rfl | hcidr
        · obtain ⟨block, -, hblock⟩ := normalizeCidr_eq_ok.mp hentry
          exact ⟨block, hblock⟩
        · exact ih hrest cidr hcidr

end Pasteboard
