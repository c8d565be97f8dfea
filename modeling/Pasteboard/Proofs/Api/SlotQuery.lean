import Pasteboard.Proofs.Api.Disguise
import Pasteboard.Proofs.Named
import Pasteboard.Proofs.Slots.Calls
/-!
Requests for a slot, with their parameters in any order.

Parameters under two names are taken into account in either order with the same result, but for one pair: an id that is
none and a name that a request for a slot does not have. Of these two faults the first one is answered.
-/

namespace Pasteboard

open Api Board
open Pasteboard.Http
open Pasteboard.Text

namespace Api

/-- A text that gives the id of a slot: a positive integer, between blanks. -/
def GivesId (raw : String) : Prop :=
  ∃ word id, trimmed? raw = some word ∧ Numeral.read? Numeral.int64 word = some id ∧ 0 < id

/-- There is an id among parameters, and it gives none. -/
def Misnumbered (params : Params) : Prop := ∃ raw, ("id", raw) ∈ params ∧ ¬GivesId raw

/-- The names of the parameters that a request for a slot has. -/
def slotNames : List String := ["id", "as", "json", "api_key"]

/-- There is a parameter that a request for a slot does not have. -/
def Unsupported (params : Params) : Prop := ∃ p ∈ params, p.1 ∉ slotNames

/-- The answer to a parameter that a request for a slot does not have. -/
def unsupported : Response := failure .query "Unsupported query on root path"

/-- The answers to an id that is none. -/
def Misnumbering (e : Response) : Prop := e = invalid "Id required" ∨ e = invalid "Invalid id"

variable {params params' : Params} {raw : String} {p x y : String × String} {q : SlotQuery} {b : Board} {e : Response}

/-! ### One parameter -/

theorem requiredId_congr (h : params'.lookup "id" = params.lookup "id") : requiredId params' = requiredId params := by
  rw [requiredId, requiredId, Params.word?, Params.word?, h]

theorem requiredId_of_gives (hraw : params.lookup "id" = some raw) (h : GivesId raw) :
    ∃ id, requiredId params = .ok id := by
  obtain ⟨word, id, hword, hread, hpos⟩ := h
  refine ⟨id, ?_⟩
  rw [requiredId, Params.word?, hraw, Option.bind_some, hword]
  dsimp only
  rw [hread]
  exact if_pos hpos

theorem misnumbering_of_requiredId (h : requiredId params = .error e) : Misnumbering e := by
  unfold requiredId at h
  split at h
  · cases h
    exact Or.inl rfl
  split at h
  · split at h <;> cases h
    exact Or.inr rfl
  · cases h
    exact Or.inr rfl

theorem requiredId_of_not_gives (hraw : params.lookup "id" = some raw) (h : ¬GivesId raw) :
    ∃ e, requiredId params = .error e := by
  cases hid : requiredId params with
  | error e => exact ⟨e, rfl⟩
  | ok id =>
    rw [requiredId, Params.word?, hraw, Option.bind_some] at hid
    split at hid
    · cases hid
    · rename_i word hword
      split at hid
      · rename_i n hread
        split at hid
        · exact absurd ⟨word, n, hword, hread, ‹0 < n›⟩ h
        · cases hid
      · cases hid

namespace SlotQuery

theorem take_congr (h : requiredId params' = requiredId params) : take params' = take params := by
  funext q x
  rw [take, take, h]

theorem take_unsupported (h : x.1 ∉ slotNames) : take params q x = .error unsupported := by
  obtain ⟨name, v⟩ := x
  unfold take
  split
  all_goals first | rfl | exact absurd h (by simp_all [slotNames])

theorem take_error (h : take params q x = .error e) :
    x.1 = "id" ∧ requiredId params = .error e ∨ x.1 ∉ slotNames ∧ e = unsupported := by
  by_cases hx : x.1 ∈ slotNames
  · obtain ⟨name, v⟩ := x
    simp only [slotNames, List.mem_cons, List.not_mem_nil, or_false] at hx
    rcases hx with rfl | rfl | rfl | rfl
    · cases hid : requiredId params with
      | error e' =>
        rw [take, hid] at h
        cases h
        exact Or.inl ⟨rfl, rfl⟩
      | ok id =>
        rw [take, hid] at h
        cases h
    all_goals cases h
  · rw [take_unsupported hx] at h
    cases h
    exact Or.inr ⟨hx, rfl⟩

/-- Parameters under two names go in either order, unless one is an id that is none and the other is unsupported. -/
theorem take_comm (hne : x.1 ≠ y.1)
    (hx : x.1 ∉ slotNames → y.1 = "id" → ∃ id, requiredId params = .ok id)
    (hy : y.1 ∉ slotNames → x.1 = "id" → ∃ id, requiredId params = .ok id) (q : SlotQuery) :
    (take params q x >>= fun q => take params q y) = take params q y >>= fun q => take params q x := by
  -- What comes after an unsupported parameter is not looked at; what comes before it must not fail in another way.
  have hlast {z u : String × String} (hz : z.1 ∉ slotNames) (hu : u.1 = "id" → ∃ id, requiredId params = .ok id) :
      (take params q z >>= fun q => take params q u) = take params q u >>= fun q => take params q z := by
    rw [take_unsupported hz]
    cases htake : take params q u with
    | ok q' => exact (take_unsupported hz).symm
    | error e =>
      rcases take_error htake with ⟨hid, he⟩ | ⟨-, rfl⟩
      · obtain ⟨id, hok⟩ := hu hid
        cases he.symm.trans hok
      · rfl
  by_cases hxs : x.1 ∈ slotNames
  · by_cases hys : y.1 ∈ slotNames
    · obtain ⟨name, v⟩ := x
      obtain ⟨name', v'⟩ := y
      simp only [slotNames, List.mem_cons, List.not_mem_nil, or_false] at hxs hys
      cases hid : requiredId params <;> rcases hxs with rfl | rfl | rfl | rfl <;>
        rcases hys with rfl | rfl | rfl | rfl <;> first | exact absurd rfl hne | (simp only [take, hid]; rfl)
    · exact (hlast hys (hy hys)).symm
  · exact hlast hxs (hx hxs)

end SlotQuery

/-! ### All parameters -/

section
variable {ε σ α : Type} {f : σ → α → Except ε σ} {l l' : List α}

/-- Steps that commute may be taken in any order. -/
theorem foldlM_perm (h : l'.Perm l)
    (hcomm : ∀ x ∈ l, ∀ y ∈ l, ∀ q, (f q x >>= fun q => f q y) = f q y >>= fun q => f q x) (q : σ) :
    l'.foldlM f q = l.foldlM f q := by
  induction h generalizing q with
  | nil => rfl
  | cons x _ ih =>
    rw [List.foldlM_cons, List.foldlM_cons]
    exact bind_congr fun q' => ih (fun x hx y hy => hcomm x (.tail _ hx) y (.tail _ hy)) q'
  | swap x y l =>
    simp only [List.foldlM_cons, ← bind_assoc]
    rw [hcomm x (by simp) y (by simp)]
  | trans h h' ih ih' =>
    rw [ih (fun x hx y hy => hcomm x (h'.mem_iff.mp hx) y (h'.mem_iff.mp hy)), ih' hcomm]

/-- A step that fails from everywhere fails the whole, unless another one has failed before. -/
theorem foldlM_error {P : ε → Prop} {x : α} (hx : x ∈ l) (hfail : ∀ q, ∃ e, f q x = .error e)
    (hP : ∀ y ∈ l, ∀ q e, f q y = .error e → P e) (q : σ) : ∃ e, P e ∧ l.foldlM f q = .error e := by
  induction l generalizing q with
  | nil => cases hx
  | cons y l ih =>
    rw [List.foldlM_cons]
    cases hy : f q y with
    | error e => exact ⟨e, hP y (.head _) q e hy, rfl⟩
    | ok q' =>
      rcases List.mem_cons.mp hx with rfl | hx
      · obtain ⟨e, he⟩ := hfail q
        cases he.symm.trans hy
      · exact ih hx (fun y hy => hP y (.tail _ hy)) q'

end

theorem requiredId_perm (hnames : (params.map (·.1)).Nodup) (h : params'.Perm params) :
    requiredId params' = requiredId params :=
  requiredId_congr (Named.lookup_perm hnames h)

theorem SlotQuery.read_perm (hnames : (params.map (·.1)).Nodup) (hfault : ¬(Misnumbered params ∧ Unsupported params))
    (h : params'.Perm params) : SlotQuery.read params' = SlotQuery.read params := by
  rw [SlotQuery.read, SlotQuery.read, take_congr (requiredId_perm hnames h)]
  -- Next to an unsupported parameter an id is one.
  have hclear : ∀ x ∈ params, ∀ y ∈ params, x.1 ∉ slotNames → y.1 = "id" → ∃ id, requiredId params = .ok id := by
    rintro x hx ⟨name, raw⟩ hy hstrange (rfl : name = "id")
    have hgives : GivesId raw := by
      by_contra hnot
      exact hfault ⟨⟨raw, hy, hnot⟩, x, hx, hstrange⟩
    exact requiredId_of_gives ((Named.lookup_eq_some_iff hnames).mpr hy) hgives
  refine foldlM_perm h (fun x hx y hy q => ?_) ({} : SlotQuery)
  by_cases hxy : x = y
  · rw [hxy]
  · have hne : x.1 ≠ y.1 := fun hname => hxy (List.inj_on_of_nodup_map hnames hx hy hname)
    exact take_comm hne (hclear x hx y hy) (hclear y hy x hx) q

theorem run_getSlot_of_error (h : SlotQuery.read params = .error e) : (getSlot params).answer.run b = (e, b) := by
  rw [run_answer, getSlot, run_bind, run_of, h]

/-- A parameter that fails is answered first where it stands first. -/
theorem answered_first (hx : x ∈ params) (hfail : ∀ params' : Params, params'.Perm params →
    ∀ q, SlotQuery.take params' q x = .error e) :
    ∃ params' : Params, params'.Perm params ∧ ∀ b, (getSlot params').answer.run b = (e, b) := by
  have hperm : (x :: params.erase x).Perm params := (List.perm_cons_erase hx).symm
  refine ⟨_, hperm, fun b => run_getSlot_of_error ?_⟩
  rw [SlotQuery.read, List.foldlM_cons, hfail _ hperm]
  rfl

theorem unsupported_ne (h : Misnumbering e) : e ≠ unsupported := by
  rintro rfl
  have hcode : ∀ message, invalid message ≠ unsupported := fun message hsame => by
    simp [invalid, unsupported, failure, Response.ofJson, ErrorCode.name] at hsame
  rcases h with h | h <;> exact hcode _ h.symm

/-- However the distinct parameters of a request for a slot are enumerated, the answer is the same, unless there are
both an id that is none and a parameter that such a request does not have. Then each of the two can be what is answered,
and one of the two is; the board stays as it was. -/
theorem slot_requests_ignore_order_iff (hnames : (params.map (·.1)).Nodup) :
    ((∀ params' : Params, params'.Perm params → ∀ b, (getSlot params').answer.run b = (getSlot params).answer.run b) ↔
      ¬(Misnumbered params ∧ Unsupported params)) ∧
    (Misnumbered params → Unsupported params →
      (∀ params' : Params, params'.Perm params → ∀ b, ∃ e, (Misnumbering e ∨ e = unsupported) ∧
        (getSlot params').answer.run b = (e, b)) ∧
      (∃ params' : Params, params'.Perm params ∧ ∃ e, Misnumbering e ∧ ∀ b, (getSlot params').answer.run b = (e, b)) ∧
      ∃ params' : Params, params'.Perm params ∧ ∀ b, (getSlot params').answer.run b = (unsupported, b)) := by
  have hboth : Misnumbered params → Unsupported params →
      (∃ params' : Params, params'.Perm params ∧ ∃ e, Misnumbering e ∧ ∀ b, (getSlot params').answer.run b = (e, b)) ∧
      ∃ params' : Params, params'.Perm params ∧ ∀ b, (getSlot params').answer.run b = (unsupported, b) := by
    rintro ⟨raw, hraw, hnot⟩ ⟨x, hx, hstrange⟩
    obtain ⟨e, he⟩ := requiredId_of_not_gives ((Named.lookup_eq_some_iff hnames).mpr hraw) hnot
    have hid := answered_first (e := e) hraw fun params' hp q => by
      rw [SlotQuery.take, requiredId_perm hnames hp, he]
      rfl
    obtain ⟨params', hp, hrun⟩ := hid
    exact ⟨⟨params', hp, e, misnumbering_of_requiredId he, hrun⟩,
      answered_first hx fun _ _ _ => SlotQuery.take_unsupported hstrange⟩
  refine ⟨⟨fun hall hfault => ?_, fun hfault params' hp b => ?_⟩, fun hbad hstrange => ⟨fun params' hp b => ?_,
    hboth hbad hstrange⟩⟩
  · obtain ⟨⟨p₁, hp₁, e, he, hrun₁⟩, p₂, hp₂, hrun₂⟩ := hboth hfault.1 hfault.2
    let b := Board.fresh counting
    have hsame : (e, b) = (unsupported, b) := by
      rw [← hrun₁ b, ← hrun₂ b, hall p₁ hp₁ b, hall p₂ hp₂ b]
    exact unsupported_ne he (Prod.mk.inj hsame).1
  · rw [getSlot, getSlot, SlotQuery.read_perm hnames hfault hp]
  · obtain ⟨x, hx, hstrange⟩ := hstrange
    obtain ⟨e, he, hread⟩ : ∃ e, (Misnumbering e ∨ e = unsupported) ∧ SlotQuery.read params' = .error e :=
      foldlM_error (hp.mem_iff.mpr hx) (fun q => ⟨_, SlotQuery.take_unsupported hstrange⟩) (fun y _ q e hy => by
        rcases SlotQuery.take_error hy with ⟨-, hid⟩ | ⟨-, he⟩
        · exact Or.inl (misnumbering_of_requiredId hid)
        · exact Or.inr he) {}
    exact ⟨e, he, run_getSlot_of_error hread⟩

theorem not_givesId_zero : ¬GivesId "0" := by
  rintro ⟨word, id, hword, hread, hpos⟩
  have hzero : (trimmed? "0").bind (Numeral.read? Numeral.int64) = some 0 := by decide +kernel
  rw [hword, Option.bind_some, hread] at hzero
  cases hzero
  exact absurd hpos (lt_irrefl 0)

/-- Two parameters that are read in either order, and two that are not. -/
theorem slot_requests_ignore_order_of_two :
    (∀ b, (getSlot [("json", "true"), ("id", "1")]).answer.run b =
      (getSlot [("id", "1"), ("json", "true")]).answer.run b) ∧
    (∃ params' : Params, params'.Perm [("id", "0"), ("x", "")] ∧ ∃ e, Misnumbering e ∧
      ∀ b, (getSlot params').answer.run b = (e, b)) ∧
    ∃ params' : Params, params'.Perm [("id", "0"), ("x", "")] ∧
      ∀ b, (getSlot params').answer.run b = (unsupported, b) := by
  have hbad : Misnumbered [("id", "0"), ("x", "")] := ⟨"0", .head _, not_givesId_zero⟩
  have hstrange : Unsupported [("id", "0"), ("x", "")] := ⟨("x", ""), .tail _ (.head _), by simp [slotNames]⟩
  have hfree : ¬Unsupported [("id", "1"), ("json", "true")] := by simp [Unsupported, slotNames]
  refine ⟨?_, ((slot_requests_ignore_order_iff (by simp)).2 hbad hstrange).2⟩
  exact (slot_requests_ignore_order_iff (by simp)).1.mpr (fun h => hfree h.2) _ (.swap _ _ _)

/-- An id that is none and an unknown parameter, in both orders. -/
theorem slot_request_order_decides : [("x", ""), ("id", "0")].Perm [("id", "0"), ("x", "")] ∧
    (∀ b, (getSlot [("id", "0"), ("x", "")]).answer.run b = (invalid "Invalid id", b)) ∧
    (∀ b, (getSlot [("x", ""), ("id", "0")]).answer.run b = (unsupported, b)) ∧ invalid "Invalid id" ≠ unsupported := by
  refine ⟨.swap _ _ _, fun b => run_getSlot_of_error ?_, fun b => run_getSlot_of_error rfl, unsupported_ne (Or.inr rfl)⟩
  have hid : requiredId [("id", "0"), ("x", "")] = .error (invalid "Invalid id") := by
    have hword : Params.word? [("id", "0"), ("x", "")] "id" = some "0" := by decide +kernel
    rw [requiredId, hword]
    rfl
  rw [SlotQuery.read, List.foldlM_cons, SlotQuery.take, hid]
  rfl

end Api

end Pasteboard
