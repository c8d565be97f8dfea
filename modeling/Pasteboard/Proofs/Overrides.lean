import Mathlib.Data.List.Perm.Basic
import Pasteboard.Proofs.Settings
import Pasteboard.Proofs.Text.Reading
/-!
Overrides go before variables.

Limits are clamped when variables are read and once more when they are overridden. Together this comes to one clamp of
the number that goes before the others, with a notice if it is above the ceiling. So it makes no difference, but for the
order of the notices, whether something is asked for by an override or by the variable that it stands for.
-/

namespace Pasteboard

open Text

/-- The notices that a number leaves that a limit is asked to be. -/
def Limit.noticesFor (l : Limit) (n : Nat) : List ClampNotice := if l.ceiling < n then [⟨l, n⟩] else []

/-- The notices of a limit. -/
def Limits.noticesOf (x : Limits) (l : Limit) : List ClampNotice := x.notices.filter (·.limit == l)

/-- What is left of numbers that were asked for: each is clamped, and has left its notice. -/
structure Limits.Settled (x : Limits) (asked : Limit → Nat) : Prop where
  value : ∀ l, x.value l = l.clamp (asked l)
  notices : ∀ l, x.noticesOf l = l.noticesFor (asked l)

/-- The number that overrides ask for. -/
def Overrides.limit? (o : Overrides) : Limit → Option Nat
  | .slots => o.slots
  | .fileBytes => o.fileBytes
  | .textBytes => o.textBytes

/-! ### Limits -/

namespace Limit

variable {l : Limit} {n : Nat}

theorem clamp_of_bounds (hlow : 1 ≤ n) (hhigh : n ≤ l.ceiling) : l.clamp n = n := by
  rw [clamp, Nat.min_eq_left hhigh, Nat.max_eq_right hlow]

theorem clamp_zero (l : Limit) : l.clamp 0 = 1 := by
  rw [clamp, Nat.zero_min, Nat.max_zero]

theorem clamp_of_ceiling_le (h : l.ceiling ≤ n) : l.clamp n = l.ceiling := by
  have hceiling : 1 ≤ l.ceiling := (l.clamp_bounds n).1.trans (l.clamp_bounds n).2
  rw [clamp, Nat.min_eq_right h, Nat.max_eq_right hceiling]

theorem clamp_clamp (l : Limit) (n : Nat) : l.clamp (l.clamp n) = l.clamp n :=
  clamp_of_bounds (l.clamp_bounds n).1 (l.clamp_bounds n).2

end Limit

namespace Limits
variable {x y : Limits} {l l' : Limit} {asked : Limit → Nat}

@[simp] theorem notices_put (n : Nat) : (x.put l n).notices = x.notices := by cases l <;> rfl

theorem noticesOf_forget : (x.forget l).noticesOf l' = if l' = l then [] else x.noticesOf l' := by
  have hforget : (x.forget l).noticesOf l' = x.notices.filter fun n => n.limit == l' && n.limit != l :=
    List.filter_filter
  rw [hforget]
  by_cases h : l' = l
  · subst h
    rw [if_pos rfl, List.filter_eq_nil_iff]
    intro n _
    simp
  · rw [if_neg h]
    refine List.filter_congr fun n _ => ?_
    by_cases hn : n.limit = l'
    · simp [hn, h]
    · simp [hn]

theorem noticesOf_clampOne (x : Limits) (l l' : Limit) :
    (x.clampOne l).noticesOf l' = if l' = l ∧ l.ceiling < x.value l then [⟨l, x.value l⟩] else x.noticesOf l' := by
  rw [clampOne, noticesOf, notices_put]
  by_cases hover : l.ceiling < x.value l
  · have hforget : (x.forget l).notices.filter (·.limit == l') = if l' = l then [] else x.noticesOf l' :=
      noticesOf_forget
    rw [if_pos hover, List.filter_append, hforget]
    by_cases h : l' = l
    · simp [h, hover]
    · simp [h, Ne.symm h]
  · simp [hover, noticesOf]

/-- Clamping leaves a new notice of each number that is too large. -/
theorem noticesOf_clamped (x : Limits) (l : Limit) :
    x.clamped.noticesOf l = if l.ceiling < x.value l then [⟨l, x.value l⟩] else x.noticesOf l := by
  have hclamped : x.clamped = ((x.clampOne .slots).clampOne .fileBytes).clampOne .textBytes := rfl
  rw [hclamped]
  simp only [noticesOf_clampOne, value_clampOne]
  cases l <;> simp

theorem value_ask (x : Limits) (l l' : Limit) (n : Option Nat) :
    (x.ask l n).value l' = if l' = l then n.getD (x.value l) else x.value l' := by
  cases n with
  | none =>
    by_cases h : l' = l
    · simp [ask, h]
    · simp [ask, h]
  | some n =>
    rw [ask, forget, value_notices]
    by_cases h : l' = l
    · simp [h]
    · simp [h, value_put_of_ne h]

theorem noticesOf_ask (x : Limits) (l l' : Limit) (n : Option Nat) :
    (x.ask l n).noticesOf l' = if l' = l then if n.isSome then [] else x.noticesOf l else x.noticesOf l' := by
  cases n with
  | none =>
    by_cases h : l' = l
    · simp [ask, h]
    · simp [ask, h]
  | some n =>
    have hput : (x.put l n).noticesOf l' = x.noticesOf l' := congrArg (List.filter _) (notices_put n)
    rw [ask, noticesOf_forget, hput]
    rfl

theorem settled_clamped (x : Limits) (hnone : x.notices = []) : x.clamped.Settled x.value where
  value := value_clamped x
  notices l := by rw [noticesOf_clamped, Limit.noticesFor, noticesOf, hnone, List.filter_nil]

/-- Numbers that are asked for later go before what was settled. -/
theorem Settled.override (h : x.Settled asked) (o : Overrides) :
    (((x.ask .slots o.slots).ask .fileBytes o.fileBytes).ask .textBytes o.textBytes).clamped.Settled
      fun l => (o.limit? l).getD (asked l) := by
  have hvalue : ∀ l, (((x.ask .slots o.slots).ask .fileBytes o.fileBytes).ask .textBytes o.textBytes).value l =
      (o.limit? l).getD (x.value l) := by
    intro l
    simp only [value_ask]
    cases l <;> rfl
  have hnotices : ∀ l, (((x.ask .slots o.slots).ask .fileBytes o.fileBytes).ask .textBytes o.textBytes).noticesOf l =
      if (o.limit? l).isSome then [] else x.noticesOf l := by
    intro l
    simp only [noticesOf_ask]
    cases l <;> rfl
  refine ⟨fun l => ?_, fun l => ?_⟩
  · rw [value_clamped, hvalue, h.value]
    cases o.limit? l with
    | none => exact l.clamp_clamp _
    | some n => rfl
  · rw [noticesOf_clamped, hvalue, hnotices, h.value]
    cases o.limit? l with
    | none =>
      rw [Option.getD_none, if_neg (Nat.not_lt.mpr (l.clamp_bounds _).2)]
      exact h.notices l
    | some n => rfl

theorem value_mk (asked : Limit → Nat) :
    (Limits.mk (asked .slots) (asked .fileBytes) (asked .textBytes) []).value = asked := by
  funext l
  cases l <;> rfl

theorem settled_said (lookup : String → Option String) (bind : Net.Endpoint) (asked : Limit → Nat)
    (proxies : List String) :
    (Settings.said lookup bind asked proxies).limits.Settled asked := by
  have hsettled := settled_clamped (Limits.mk (asked .slots) (asked .fileBytes) (asked .textBytes) []) rfl
  rwa [value_mk] at hsettled

/-- What is settled depends on the numbers only, up to the order of the notices. -/
theorem Settled.unique (hx : x.Settled asked) (hy : y.Settled asked) :
    { x with notices := [] } = { y with notices := [] } ∧ x.notices.Perm y.notices := by
  have hvalue : ∀ l, x.value l = y.value l := fun l => (hx.value l).trans (hy.value l).symm
  refine ⟨?_, List.perm_iff_count.mpr fun n => ?_⟩
  · obtain ⟨_, _, _, _⟩ := x
    obtain ⟨_, _, _, _⟩ := y
    exact congr (congr (congr (congrArg Limits.mk (hvalue .slots)) (hvalue .fileBytes)) (hvalue .textBytes)) rfl
  · have hcount : ∀ z : Limits, z.notices.count n = (z.noticesOf n.limit).count n := fun z =>
      (List.count_filter (p := fun m : ClampNotice => m.limit == n.limit) (beq_self_eq_true n.limit)).symm
    rw [hcount x, hcount y, hx.notices, hy.notices]

end Limits

/-! ### Variables in the place of overrides -/

namespace Overrides

/-- The number that goes before the others: that of the overrides, that of the variable, or the ceiling. -/
def asked (o : Overrides) (lookup : String → Option String) (l : Limit) : Nat :=
  (o.limit? l).getD ((Settings.numberFrom? lookup l).getD l.ceiling)

/-- The variables of the switches, and whether they are overridden. -/
def switches (o : Overrides) : List (String × Bool) :=
  [("KARING_NO_AUTH", o.noAuth), ("KARING_TRUSTED_PROXY", o.trustProxy), ("KARING_ALLOW_LOCALHOST", o.allowLocalhost)]

/-- The variables that overrides of limits, switches and the base path stand for. -/
def variableNames : List String :=
  ["KARING_LIMIT", "KARING_MAX_FILE_BYTES", "KARING_MAX_TEXT_BYTES", "KARING_NO_AUTH", "KARING_TRUSTED_PROXY",
    "KARING_ALLOW_LOCALHOST", "KARING_BASE_PATH"]

/-- Variables that ask for the limits, the switches and the base path that overrides ask for, and are as before where
these ask for nothing. A number or a switch may be spelled in any way. -/
structure SaidBy (o : Overrides) (lookup lookup' : String → Option String) : Prop where
  limit : ∀ l n, o.limit? l = some n → Settings.numberFrom? lookup' l = some n
  sameLimit : ∀ l, o.limit? l = none → lookup' l.variableName = lookup l.variableName
  switch : ∀ name, (name, true) ∈ o.switches → Settings.switched lookup' name false = true
  sameSwitch : ∀ name, (name, false) ∈ o.switches → lookup' name = lookup name
  basePath : ∀ path, o.basePath = some path → lookup' "KARING_BASE_PATH" = some path
  samePath : o.basePath = none → lookup' "KARING_BASE_PATH" = lookup "KARING_BASE_PATH"
  others : ∀ name, name ∉ variableNames → lookup' name = lookup name

/-- The limits are numbers that a variable can ask for. -/
def InRange (o : Overrides) : Prop := ∀ l n, o.limit? l = some n → (n : Int) ≤ l.range.high

/-- The variables with overrides written into them. -/
def writtenInto (o : Overrides) (lookup : String → Option String) (name : String) : Option String :=
  match Limit.all.find? (·.variableName == name) with
  | some l => ((o.limit? l).map toString).or (lookup name)
  | none =>
    if (name, true) ∈ o.switches then some "1"
    else if name = "KARING_BASE_PATH" then o.basePath.or (lookup name)
    else lookup name

variable {o : Overrides} {lookup lookup' : String → Option String}

theorem writtenInto_limit (l : Limit) :
    o.writtenInto lookup l.variableName = ((o.limit? l).map toString).or (lookup l.variableName) := by
  cases l <;> rfl

theorem mem_switches {name : String} {on : Bool} (h : (name, on) ∈ o.switches) :
    Limit.all.find? (·.variableName == name) = none ∧ name ≠ "KARING_BASE_PATH" := by
  simp only [switches, List.mem_cons, Prod.mk.injEq, List.not_mem_nil, or_false] at h
  rcases h with ⟨rfl, -⟩ | ⟨rfl, -⟩ | ⟨rfl, -⟩ <;> decide

theorem switches_unique {name : String} (hoff : (name, false) ∈ o.switches) : (name, true) ∉ o.switches := by
  simp only [switches, List.mem_cons, Prod.mk.injEq, List.not_mem_nil, or_false] at hoff ⊢
  rcases hoff with ⟨rfl, hoff⟩ | ⟨rfl, hoff⟩ | ⟨rfl, hoff⟩ <;> simp [← hoff]

/-- A number is read from a variable that it is written into. -/
theorem numberFrom?_toString {l : Limit} {n : Nat} (hn : (n : Int) ≤ l.range.high)
    (h : lookup l.variableName = some (toString n)) : Settings.numberFrom? lookup l = some n := by
  have htext : toString n = toString (n : Int) := rfl
  have hnonneg : (0 : Int) ≤ n := Int.natCast_nonneg n
  have hblank : ∀ c ∈ (toString (n : Int)).toList, isBlank c = false := fun c hc =>
    isBlank_of_isDigit (Numeral.isDigit_of_mem_toString hnonneg hc)
  obtain ⟨c, cs, hcons⟩ : ∃ c cs, (toString (n : Int)).toList = c :: cs := by
    rw [Numeral.toList_toString hnonneg]
    exact List.exists_cons_of_ne_nil Nat.toDigits_ne_nil
  have hgiven : Settings.given lookup l.variableName = some (toString (n : Int)) := by
    have hfirst : isBlank c = false := hblank c (hcons ▸ List.mem_cons_self)
    rw [Settings.given, h, htext, Option.filter_some, allBlank, hcons]
    simp [hfirst]
  rw [Settings.numberFrom?, hgiven, Option.bind_some, trim, trimBlanks_eq hblank, String.ofList_toList,
    Numeral.read?_toString hnonneg hn]
  rfl

theorem saidBy_writtenInto (h : o.InRange) (lookup : String → Option String) :
    o.SaidBy lookup (o.writtenInto lookup) where
  limit l n hn := numberFrom?_toString (h l n hn) (by rw [writtenInto_limit, hn]; rfl)
  sameLimit l hnone := by rw [writtenInto_limit, hnone]; rfl
  switch name hon := by
    have hone : o.writtenInto lookup name = some "1" := by
      rw [writtenInto, (mem_switches hon).1]
      exact if_pos hon
    rw [Settings.switched, Settings.given, hone]
    decide
  sameSwitch name hoff := by
    rw [writtenInto, (mem_switches hoff).1]
    exact (if_neg (switches_unique hoff)).trans (if_neg (mem_switches hoff).2)
  basePath path hpath := by simp [writtenInto, Limit.all, Limit.variableName, switches, hpath]
  samePath hnone := by simp [writtenInto, Limit.all, Limit.variableName, switches, hnone]
  others name hname := by
    simp only [variableNames, List.mem_cons, List.not_mem_nil, or_false, not_or] at hname
    simp [writtenInto, Limit.all, Limit.variableName, switches, hname, Ne.symm]

end Overrides

/-- Settings that are the same but for the order of the notices. -/
structure Settings.SameButOrder (s t : Settings) : Prop where
  same : { s with limits.notices := [] } = { t with limits.notices := [] }
  notices : s.limits.notices.Perm t.limits.notices

namespace Overrides
variable {o : Overrides} {lookup lookup' : String → Option String} {s : Settings}

theorem normalBasePath_blank {path : String} (h : allBlank path = true) : Settings.normalBasePath path = "/" := by
  have hnil : trimBlanks path.toList = [] := by
    rw [trimBlanks, List.dropWhile_eq_nil_iff.mpr (List.all_eq_true.mp h)]
    rfl
  rw [Settings.normalBasePath, hnil]
  rfl

namespace SaidBy

theorem given_eq (h : o.SaidBy lookup lookup') (name : String) (hname : name ∉ variableNames) :
    Settings.given lookup' name = Settings.given lookup name := by
  rw [Settings.given, h.others name hname, ← Settings.given]

theorem switched_eq (h : o.SaidBy lookup lookup') {name : String} {on : Bool} (hmem : (name, on) ∈ o.switches) :
    Settings.switched lookup' name false = (Settings.switched lookup name false || on) := by
  cases on with
  | true => rw [h.switch name hmem, Bool.or_true]
  | false =>
    rw [Settings.switched, Settings.given, h.sameSwitch name hmem, ← Settings.given, ← Settings.switched, Bool.or_false]

theorem basePath_eq (h : o.SaidBy lookup lookup') :
    ((Settings.given lookup' "KARING_BASE_PATH").map Settings.normalBasePath).getD "/" = match o.basePath with
      | some path => Settings.normalBasePath path
      | none => ((Settings.given lookup "KARING_BASE_PATH").map Settings.normalBasePath).getD "/" := by
  cases hpath : o.basePath with
  | none => rw [Settings.given, h.samePath hpath, ← Settings.given]
  | some path =>
    rw [Settings.given, h.basePath path hpath, Option.filter_some]
    -- A blank path counts as none for a variable, and is the root for an override.
    cases hblank : allBlank path with
    | false => rfl
    | true => exact (normalBasePath_blank hblank).symm

theorem limitFrom_eq (h : o.SaidBy lookup lookup') {l : Limit} {n : Nat}
    (hlimit : Settings.limitFrom lookup l = .ok n) :
    Settings.limitFrom lookup' l = .ok ((o.limit? l).getD n) := by
  cases hasked : o.limit? l with
  | none => rwa [Settings.limitFrom, Settings.given, h.sameLimit l hasked, ← Settings.given, ← Settings.limitFrom]
  | some m => exact Settings.limitFrom_of_number (h.limit l m hasked)

theorem bindFrom_eq (h : o.SaidBy lookup lookup') : Settings.bindFrom lookup' = Settings.bindFrom lookup := by
  delta Settings.bindFrom
  rw [h.given_eq "KARING_BIND_ADDR" (by simp [variableNames])]

theorem proxiesFrom_eq (h : o.SaidBy lookup lookup') : Settings.proxiesFrom lookup' = Settings.proxiesFrom lookup := by
  rw [Settings.proxiesFrom, h.given_eq "KARING_TRUSTED_PROXIES" (by simp [variableNames]), ← Settings.proxiesFrom]

theorem said_override (h : o.SaidBy lookup lookup') (bind : Net.Endpoint) (asked : Limit → Nat)
    (proxies : List String) :
    ((Settings.said lookup bind asked proxies).override o).SameButOrder
      ((Settings.said lookup' bind (fun l => (o.limit? l).getD (asked l)) proxies).override
        { dataPath := o.dataPath, port := o.port }) := by
  have hsettled := (Limits.settled_said lookup bind asked proxies).override o
  have hsettled' := (Limits.settled_said lookup' bind (fun l => (o.limit? l).getD (asked l)) proxies).override
    { dataPath := o.dataPath, port := o.port }
  have hnone : ∀ l, ({ dataPath := o.dataPath, port := o.port } : Overrides).limit? l = none :=
    fun l => by cases l <;> rfl
  simp only [hnone, Option.getD_none] at hsettled'
  obtain ⟨hlimits, hnotices⟩ := hsettled.unique hsettled'
  refine ⟨?_, hnotices⟩
  have hkept : ∀ name other, name ∉ variableNames →
      Settings.switched lookup' name other = Settings.switched lookup name other :=
    fun name other hname => by rw [Settings.switched, h.given_eq name hname, ← Settings.switched]
  have hswitch : ∀ name on, (name, on) ∈ o.switches →
      (Settings.switched lookup name false || on) = (Settings.switched lookup' name false || false) :=
    fun name on hmem => by rw [Bool.or_false, h.switched_eq hmem]
  have hfilter := h.given_eq "KARING_LOG_FILTER" (by simp [variableNames])
  have hdata := h.given_eq "KARING_DATA" (by simp [variableNames])
  have hjson := hkept "KARING_LOG_JSON" false (by simp [variableNames])
  have hfullText := hkept "KARING_FTS" true (by simp [variableNames])
  have hfallback := hkept "KARING_SEARCH_FALLBACK" true (by simp [variableNames])
  have hnoAuth := hswitch "KARING_NO_AUTH" o.noAuth (by simp [switches])
  have htrust := hswitch "KARING_TRUSTED_PROXY" o.trustProxy (by simp [switches])
  have hlocalhost := hswitch "KARING_ALLOW_LOCALHOST" o.allowLocalhost (by simp [switches])
  simp only [Settings.override, Settings.said, Settings.mk.injEq, hfilter, hdata, hjson, hfullText, hfallback, hnoAuth,
    htrust, hlocalhost, true_and, and_true] at hlimits ⊢
  exact ⟨hlimits, h.basePath_eq.symm⟩

theorem read (h : o.SaidBy lookup lookup') (hread : Settings.read lookup = .ok s) :
    ∃ s', Settings.read lookup' = .ok s' ∧
    (s.override o).SameButOrder (s'.override { dataPath := o.dataPath, port := o.port }) := by
  obtain ⟨bind, asked, proxies, hbind, hlimits, hproxies, rfl⟩ := Settings.read_eq_ok.mp hread
  refine ⟨_, Settings.read_eq_ok.mpr ⟨bind, _, proxies, ?_, fun l => h.limitFrom_eq (hlimits l), ?_, rfl⟩,
    h.said_override bind asked proxies⟩
  · rw [h.bindFrom_eq, hbind]
  · rw [h.proxiesFrom_eq, hproxies]

end SaidBy

end Overrides

section
variable {lookup : String → Option String} {s : Settings}

theorem Settings.override_settled (hread : Settings.read lookup = .ok s) (o : Overrides) :
    (s.override o).limits.Settled (o.asked lookup) := by
  obtain ⟨bind, asked, proxies, -, hlimits, -, rfl⟩ := Settings.read_eq_ok.mp hread
  have hasked : asked = fun l => (Settings.numberFrom? lookup l).getD l.ceiling :=
    funext fun l => Settings.number_of_limitFrom (hlimits l)
  subst hasked
  exact (Limits.settled_said lookup bind _ proxies).override o

/-- With overrides, a limit is the number that goes before the others, if that lies between one and the ceiling. Else it
is the nearer of the two. -/
theorem Settings.override_value_cases (hread : Settings.read lookup = .ok s) (o : Overrides) (l : Limit) :
    (1 ≤ (s.override o).limits.value l ∧ (s.override o).limits.value l ≤ l.ceiling) ∧
    (1 ≤ o.asked lookup l → o.asked lookup l ≤ l.ceiling → (s.override o).limits.value l = o.asked lookup l) ∧
    (o.asked lookup l = 0 → (s.override o).limits.value l = 1) ∧
    (l.ceiling ≤ o.asked lookup l → (s.override o).limits.value l = l.ceiling) := by
  rw [(Settings.override_settled hread o).value]
  exact ⟨l.clamp_bounds _, Limit.clamp_of_bounds, fun hzero => hzero ▸ l.clamp_zero, Limit.clamp_of_ceiling_le⟩

end

/-- Whatever the variables ask for, an override goes before it, a limit is clamped once, and a number above the ceiling
leaves one notice. Variables can be written that ask for the same as the overrides, and all that do lead to the same
settings. -/
theorem overrides_go_first {lookup : String → Option String} {s : Settings} (hread : Settings.read lookup = .ok s)
    (o : Overrides) :
    (∀ l, (s.override o).limits.value l = l.clamp (o.asked lookup l)) ∧
    (∀ l, (s.override o).limits.noticesOf l =
      if l.ceiling < o.asked lookup l then [⟨l, o.asked lookup l⟩] else []) ∧
    (o.InRange → ∃ lookup', o.SaidBy lookup lookup') ∧
    ∀ lookup', o.SaidBy lookup lookup' → ∃ s', Settings.read lookup' = .ok s' ∧
      (s.override o).SameButOrder (s'.override { dataPath := o.dataPath, port := o.port }) := by
  have hsettled := Settings.override_settled hread o
  exact ⟨hsettled.value, hsettled.notices, fun hrange => ⟨_, Overrides.saidBy_writtenInto hrange lookup⟩,
    fun lookup' hsaid => hsaid.read hread⟩

/-- Variables that ask for fewer slots than there can be, and for larger files than there can be. -/
def largeFileVariables : List (String × String) := [("KARING_LIMIT", "50"), ("KARING_MAX_FILE_BYTES", "99999999999")]

/-- Overrides that ask for more slots than there can be, and for shorter texts. -/
def shortTextOverrides : Overrides := { slots := some 250, textBytes := some 4096, noAuth := true }

theorem read_largeFileVariables : ∃ s, Settings.read (fun name => largeFileVariables.lookup name) = .ok s ∧
    (s.override shortTextOverrides).limits.value .slots = 100 ∧
    (s.override shortTextOverrides).limits.value .fileBytes = 20971520 ∧
    (s.override shortTextOverrides).limits.value .textBytes = 4096 ∧
    (s.override shortTextOverrides).limits.noticesOf .slots = [⟨.slots, 250⟩] ∧
    (s.override shortTextOverrides).limits.noticesOf .fileBytes = [⟨.fileBytes, 99999999999⟩] ∧
    (s.override shortTextOverrides).limits.noticesOf .textBytes = [] := by
  have hread : Settings.read (fun name => largeFileVariables.lookup name) = .ok _ := rfl
  obtain ⟨hvalue, hnotices, -⟩ := overrides_go_first hread shortTextOverrides
  exact ⟨_, hread, hvalue .slots, hvalue .fileBytes, hvalue .textBytes, hnotices .slots, hnotices .fileBytes,
    hnotices .textBytes⟩

end Pasteboard
