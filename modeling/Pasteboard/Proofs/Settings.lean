import Pasteboard.Settings
/-!
Settings that the service can have.

They are read from variables and perhaps overridden. In either case the limits are clamped last.
-/

namespace Pasteboard

open Text

namespace Limit

theorem clamp_bounds (l : Limit) (n : Nat) : 1 ≤ l.clamp n ∧ l.clamp n ≤ l.ceiling := by
  have hceiling : 1 ≤ l.ceiling := by cases l <;> decide
  unfold clamp
  omega

end Limit

namespace Limits
variable {x : Limits} {l l' : Limit}

@[simp] theorem value_put (n : Nat) : (x.put l n).value l = n := by cases l <;> rfl

theorem value_put_of_ne (h : l' ≠ l) (n : Nat) : (x.put l n).value l' = x.value l' := by
  cases l <;> cases l' <;> first | rfl | exact absurd rfl h

@[simp] theorem value_notices (notices : List ClampNotice) (l : Limit) :
    ({ x with notices } : Limits).value l = x.value l := by cases l <;> rfl

theorem value_clampOne (x : Limits) (l l' : Limit) :
    (x.clampOne l).value l' = if l' = l then l.clamp (x.value l) else x.value l' := by
  by_cases h : l' = l
  · subst h
    rw [if_pos rfl, clampOne, value_put]
  · rw [if_neg h, clampOne, value_put_of_ne h]
    split
    · exact value_notices _ l'
    · rfl

/-- Clamping leaves every limit clamped. -/
theorem value_clamped (x : Limits) (l : Limit) : x.clamped.value l = l.clamp (x.value l) := by
  have hclamped : x.clamped = ((x.clampOne .slots).clampOne .fileBytes).clampOne .textBytes := rfl
  rw [hclamped]
  simp only [value_clampOne]
  cases l <;> rfl

end Limits

namespace Settings
variable {lookup : String → Option String} {s : Settings} {l : Limit} {n : Nat}

/-- The number that a variable asks a limit to be. -/
def numberFrom? (lookup : String → Option String) (l : Limit) : Option Nat :=
  (given lookup l.variableName).bind fun raw => (Numeral.read? l.range (trim raw)).map Int.toNat

/-- Settings that say what the variables do, where nothing is wrong with those that can be faulty. -/
def said (lookup : String → Option String) (bind : Net.Endpoint) (asked : Limit → Nat) (trustedProxies : List String) :
    Settings where
  bind
  logFilter := (given lookup "KARING_LOG_FILTER").getD "info"
  logJson := switched lookup "KARING_LOG_JSON" false
  dataPath := (given lookup "KARING_DATA").map trim
  limits := (Limits.mk (asked .slots) (asked .fileBytes) (asked .textBytes) []).clamped
  noAuth := switched lookup "KARING_NO_AUTH" false
  trustProxy := switched lookup "KARING_TRUSTED_PROXY" false
  allowLocalhost := switched lookup "KARING_ALLOW_LOCALHOST" false
  trustedProxies
  basePath := ((given lookup "KARING_BASE_PATH").map normalBasePath).getD "/"
  fullText := switched lookup "KARING_FTS" true
  fallback := switched lookup "KARING_SEARCH_FALLBACK" true

theorem limitFrom_of_number (h : numberFrom? lookup l = some n) : limitFrom lookup l = .ok n := by
  obtain ⟨raw, hgiven, hnumber⟩ := Option.bind_eq_some_iff.mp h
  obtain ⟨m, hread, rfl⟩ := Option.map_eq_some_iff.mp hnumber
  simp only [limitFrom, hgiven, hread]

theorem number_of_limitFrom (h : limitFrom lookup l = .ok n) : n = (numberFrom? lookup l).getD l.ceiling := by
  unfold limitFrom at h
  unfold numberFrom?
  cases hgiven : given lookup l.variableName with
  | none =>
    rw [hgiven] at h
    cases h
    rfl
  | some raw =>
    simp only [hgiven] at h
    rw [Option.bind_some]
    split at h
    · rename_i m hread
      cases h
      rw [hread]
      rfl
    · cases h

/-- Settings are read if nothing is wrong with the address, a limit or a trusted proxy. -/
theorem read_eq_ok : read lookup = .ok s ↔ ∃ bind asked trustedProxies, bindFrom lookup = .ok bind ∧
    (∀ l, limitFrom lookup l = .ok (asked l)) ∧ proxiesFrom lookup = .ok trustedProxies ∧
    s = said lookup bind asked trustedProxies := by
  constructor
  · intro h
    simp only [read, Bind.bind, Except.bind, Pure.pure, Except.pure] at h
    iterate 5
      split at h
      · cases h
    rename_i bind hbind _ slots hslots _ fileBytes hfileBytes _ textBytes htextBytes _ proxies hproxies
    cases h
    refine ⟨bind, (Limits.mk slots fileBytes textBytes []).value, proxies, hbind, ?_, hproxies, rfl⟩
    intro l
    cases l
    · exact hslots
    · exact hfileBytes
    · exact htextBytes
  · rintro ⟨bind, asked, proxies, hbind, hlimits, hproxies, rfl⟩
    simp only [read, hbind, hlimits, hproxies]
    rfl

end Settings

/-- Settings that are read from variables, and perhaps overridden. -/
def Settings.Configured (s : Settings) : Prop :=
  ∃ lookup s₀, Settings.read lookup = .ok s₀ ∧ (s = s₀ ∨ ∃ o, s = s₀.override o)

/-- Each limit is between one and its ceiling. -/
theorem Settings.Configured.bounds {s : Settings} (h : s.Configured) (l : Limit) :
    1 ≤ s.limits.value l ∧ s.limits.value l ≤ l.ceiling := by
  obtain ⟨x, hx⟩ : ∃ x : Limits, s.limits = x.clamped := by
    obtain ⟨lookup, s₀, hread, rfl | ⟨o, rfl⟩⟩ := h
    · -- The limits are clamped after everything is read.
      obtain ⟨bind, asked, proxies, -, -, -, rfl⟩ := Settings.read_eq_ok.mp hread
      exact ⟨_, rfl⟩
    · exact ⟨_, rfl⟩
  rw [hx, Limits.value_clamped]
  exact l.clamp_bounds _

end Pasteboard
