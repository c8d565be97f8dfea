import Pasteboard.Proofs.Api.Disguise
/-!
Who changes slots, who administers, and what everybody else leaves alone.

A request that changes slots was granted the role of a writer, unless it is disguised; whoever reaches a handler for
administration was granted the role of an admin, or reads on the machine itself; and a read or a refusal changes
nothing but the use of the key that was passed by.
-/

namespace Pasteboard

open Api Board
open Pasteboard.Http

variable {s : Settings} {r : Request} {route : Route} {visitor : Gate.Visitor} {b b' : Board}

/-! ### Reads and refusals -/

theorem required_rank_pos {method path : String} (h : Gate.isRead method path = false) :
    (Gate.required method path).rank ≠ 0 := by
  unfold Gate.required
  by_cases hadmin : (Text.startsWith path "/admin/" || path == "/admin") = true
  · rw [if_pos hadmin]
    decide
  · rw [if_neg hadmin, h, if_neg Bool.false_ne_true]
    decide

theorem isRead_of_required {method path : String} (h : Gate.required method path = .read) :
    Gate.isRead method path = true := by
  cases hread : Gate.isRead method path with
  | true => rfl
  | false => exact absurd (congrArg Role.rank h) (required_rank_pos hread)

theorem onlyUseNoted_of_refused (h : 400 ≤ (b.serve s r).1.status) : OnlyUseNoted s r b (b.serve s r).2 := by
  rcases serve_cases s r b with hnoted | ⟨_, _, _, -, -, -, -, hstatus⟩
  · exact hnoted
  · exact absurd hstatus (Nat.not_lt.mpr h)

theorem onlyUseNoted_of_read (hread : Gate.required r.method (told s r).target.path = .read) (hplain : ¬Disguised s r) :
    OnlyUseNoted s r b (b.serve s r).2 := by
  rcases serve_cases s r b with hnoted | ⟨route, _, _, hroute, -, -, hwrite, -⟩
  · exact hnoted
  · rcases isRead_of_told hroute (isRead_of_required hread) with hroute' | hdisguised
    · rw [hwrite] at hroute'
      cases hroute'
    · exact absurd hdisguised hplain

/-- A read or a refusal changes at most the use of the key that the gate admitted it by, unless it is disguised; every
disguised request is taken for a read and can store a slot, and there is none if the base path has no places. -/
theorem reads_and_refusals_change_nothing (s : Settings) :
    (∀ (b : Board) r,
      400 ≤ (b.serve s r).1.status ∨ Gate.required r.method (told s r).target.path = .read ∧ ¬Disguised s r →
      OnlyUseNoted s r b (b.serve s r).2) ∧
    (∀ r, Disguised s r → Gate.required (posting r).method (told s (posting r)).target.path = .read ∧
      ∃ b : Board, ¬OnlyUseNoted s (posting r) b (b.serve s (posting r)).2) ∧
    (':' ∉ s.basePath.toList → ∀ r, ¬Disguised s r) := by
  refine ⟨?_, ?_, not_disguised⟩
  · rintro b r (hrefused | ⟨hread, hplain⟩)
    · exact onlyUseNoted_of_refused hrefused
    · exact onlyUseNoted_of_read hread hplain
  · intro r hdisguised
    exact ⟨hdisguised.posting.required_eq, readerBoard, fun hnoted => hdisguised.changes hnoted.written⟩

/-- A search of a reader stores a slot. -/
theorem search_stores_a_slot :
    ¬(Gate.required (posting searchRequest).method (told placedSettings (posting searchRequest)).target.path = .read →
      OnlyUseNoted placedSettings (posting searchRequest) readerBoard
        (readerBoard.serve placedSettings (posting searchRequest)).2) := fun h =>
  searchRequest_disguised.changes (h searchRequest_disguised.posting.required_eq).written

/-! ### Slots -/

theorem granted_of_write (h : Entered s r route visitor b b') (hhealth : route ≠ .health)
    (hwrite : Gate.isRead r.method (told s r).target.path = false) :
    s.noAuth = true ∨ ∃ st, b.database = .ready st ∧ st.Grants [.write, .admin] (callerOf s r) := by
  obtain ⟨after, -, hp, -⟩ := h.gate.resolve_left fun hh => hhealth hh.1
  have hrank : (Gate.required (callerOf s r).method (callerOf s r).path).rank ≠ 0 := required_rank_pos hwrite
  have hroles (role : Role) (hle : (Gate.required (callerOf s r).method (callerOf s r).path).rank ≤ role.rank) :
      role ∈ [Role.write, Role.admin] := by
    cases role with
    | read => exact absurd (Nat.le_zero.mp hle) hrank
    | write | admin => decide
  rcases hp.granted hroles with hfree | ⟨-, hread, -⟩ | hgranted
  · exact Or.inl hfree
  · cases hwrite.symm.trans hread
  · exact Or.inr hgranted

/-- Slots and the log of overwrites change only by a request that was granted the role of a writer, unless it is
disguised; by every disguised request a reader can change them, and there is none if the base path has no places. -/
theorem slot_changes_are_granted (s : Settings) :
    (∀ (b : Board) r, (b.serve s r).2.database.written ≠ b.database.written →
      s.noAuth = true ∨ (∃ st, b.database = .ready st ∧ st.Grants [.write, .admin] (callerOf s r)) ∨ Disguised s r) ∧
    (∀ r, Disguised s r → ∃ b : Board, (b.serve s (posting r)).2.database.written ≠ b.database.written ∧
      ¬∃ st, b.database = .ready st ∧ st.Grants [.write, .admin] (callerOf s (posting r))) ∧
    (':' ∉ s.basePath.toList → ∀ r, ¬Disguised s r) := by
  refine ⟨?_, ?_, not_disguised⟩
  · intro b r hchange
    rcases serve_cases s r b with hnoted | ⟨route, visitor, b', hroute, hhealth, hentered, hwrite, -⟩
    · exact absurd hnoted.written hchange
    cases hread : Gate.isRead r.method (told s r).target.path with
    | true =>
      rcases isRead_of_told hroute hread with hroute' | hdisguised
      · cases hwrite.symm.trans hroute'
      · exact Or.inr (Or.inr hdisguised)
    | false => exact (granted_of_write hentered hhealth hread).imp_right Or.inl
  · exact fun r hdisguised => ⟨readerBoard, hdisguised.changes, reader_not_granted _⟩

/-- A reader's key lets a slot be stored. -/
theorem reader_stores_a_slot :
    ¬((readerBoard.serve placedSettings (posting searchRequest)).2.database.written ≠ readerBoard.database.written →
      placedSettings.noAuth = true ∨ ∃ st, readerBoard.database = .ready st ∧
        st.Grants [.write, .admin] (callerOf placedSettings (posting searchRequest))) := by
  intro h
  rcases h searchRequest_disguised.changes with hfree | hgranted
  · cases hfree
  · exact reader_not_granted _ hgranted

/-! ### Administration -/

/-- A handler runs for a request: that of its route and method, for a visitor who was let in. -/
structure Runs (s : Settings) (r : Request) (b : Board) (route : Route) (h : Handler Response) : Prop where
  hroute : routeOf? s r = some route
  handles : ∃ visitor b', b.run (entered s route (told s r)) = (.ok visitor, b') ∧
    handler? s route (told s r) visitor = some h

theorem handler?_options (hmethod : r.method = "OPTIONS") : handler? s route r visitor = none := by
  unfold handler?
  rw [hmethod]
  cases route <;> rfl

/-- Reads for administration have one of two methods. -/
theorem method_of_read {h : Handler Response} (hh : handler? s route (told s r) visitor = some h)
    (hroute : routeOf? s r = some route) (hadmin : route.isAdmin = true)
    (hread : Gate.isRead r.method (told s r).target.path = true) : r.method = "GET" ∨ r.method = "HEAD" := by
  have hplain : Gate.isRead r.method route.path = true := by
    refine (isRead_of_told hroute hread).resolve_right fun hdisguised => ?_
    cases hroute.symm.trans hdisguised.atRoot
    cases hadmin
  have hsearch : route.path ≠ "/search" := by cases route <;> first | decide | cases hadmin
  have hoptions : r.method ≠ "OPTIONS" := fun hmethod => by
    rw [handler?_options (r := told s r) hmethod] at hh
    cases hh
  simpa [Gate.isRead, hsearch, hoptions] using hplain

/-- A handler for administration runs only for who is free to, was granted the role of an admin, or reads on the
machine itself where that is allowed; and whoever presents a key presents that of an admin. -/
theorem administration_is_granted {h : Handler Response} (hruns : Runs s r b route h) (hadmin : route.isAdmin = true) :
    (s.noAuth = true ∨
      (s.allowLocalhost = true ∧ (r.method = "GET" ∨ r.method = "HEAD") ∧
        Net.isLoopback (callerOf s r).clientIp = true) ∨
      ∃ st, b.database = .ready st ∧ st.Grants [.admin] (callerOf s r)) ∧
    ∀ secret, (callerOf s r).key = some secret → ∃ st, b.database = .ready st ∧ st.Vouches [.admin] secret := by
  obtain ⟨visitor, b', hentered, hh⟩ := hruns.handles
  have hlet := entered_of_ok hentered
  refine ⟨?_, hlet.admin hadmin⟩
  obtain ⟨after, -, hp, -⟩ := hlet.gate.resolve_left fun hhealth => by
    rw [hhealth.1] at hadmin
    cases hadmin
  have hroles (role : Role) (_ : (Gate.required (callerOf s r).method (callerOf s r).path).rank ≤ role.rank) :
      role ∈ [Role.read, Role.write, Role.admin] := by cases role <;> decide
  rcases hp.granted hroles with
    hfree | ⟨hallowed, hread, hloopback⟩ | ⟨st, hst, hundenied, hlisted | hkeyless | ⟨secret, hkey, -⟩⟩
  · exact Or.inl hfree
  · exact Or.inr (Or.inl ⟨hallowed, method_of_read hh hruns.hroute hadmin hread, hloopback⟩)
  · exact Or.inr (Or.inr ⟨st, hst, hundenied, Or.inl hlisted⟩)
  · exact Or.inr (Or.inr ⟨st, hst, hundenied, Or.inr (Or.inl hkeyless)⟩)
  · -- Who passed by a key was asked by the second gate for that of an admin.
    obtain ⟨st', hst', hadminKey⟩ := hlet.admin hadmin secret hkey
    cases hst.symm.trans hst'
    exact Or.inr (Or.inr ⟨st, hst, hundenied, Or.inr (Or.inr ⟨secret, hkey, hadminKey⟩)⟩)

def adminKey : ApiKey := ⟨1, "root", none, true, "admin", 1000, none, none⟩

/-- A request for the listing of keys and rules, from the machine itself. -/
def overviewRequest (headers : List Header) : Request where
  method := "GET"
  target := ⟨"/admin/auth", none⟩
  headers
  body := ByteArray.empty
  peer := .v4 (.ofOctets 127 0 0 1)

def adminRequest : Request := overviewRequest [Header.of "x-api-key" "root"]

/-- Settings that let everyone on the machine itself read. -/
def openSettings : Settings := { plainSettings with allowLocalhost := true }

theorem adminKey_named : Role.named? adminKey.role = some .admin := rfl

theorem overview_runs_for_admin : Runs plainSettings adminRequest (Gate.keyBoard adminKey) .auth overview := by
  have hkey : (callerOf plainSettings adminRequest).key = some "root" := by decide +kernel
  obtain ⟨id, after, he, hp⟩ := Gate.keyholder_passes plainSettings rfl hkey adminKey_named (by decide +kernel)
  obtain ⟨st, key, hready, hfound, hrole⟩ := hp.found_after rfl (Gate.findKey_keyBoard rfl)
  have hnamed : Role.named? key.role = some .admin := by rw [hrole, adminKey_named]
  refine ⟨by decide +kernel, ⟨(callerOf plainSettings adminRequest).clientIp, id⟩, after, ?_, rfl⟩
  exact run_entered_of_pass rfl he (run_checkAdmin_of_found hkey hready hfound hnamed)

/-- An admin reaches the listing: the role of an admin is granted, by the key that is presented. -/
theorem administration_is_granted_to_admin :
    Runs plainSettings adminRequest (Gate.keyBoard adminKey) .auth overview ∧
      (∃ st, (Gate.keyBoard adminKey).database = .ready st ∧ st.Grants [.admin] (callerOf plainSettings adminRequest)) ∧
      ∃ st, (Gate.keyBoard adminKey).database = .ready st ∧ st.Vouches [.admin] "root" := by
  obtain ⟨hgranted, hvouched⟩ := administration_is_granted overview_runs_for_admin rfl
  refine ⟨overview_runs_for_admin, ?_, hvouched "root" (by decide +kernel)⟩
  rcases hgranted with hfree | ⟨hallowed, -⟩ | hgranted
  · cases hfree
  · cases hallowed
  · exact hgranted

theorem overviewRequest_keyless : (callerOf openSettings (overviewRequest [])).key = none := by decide +kernel

theorem overview_runs_on_machine : Runs openSettings (overviewRequest []) (Gate.keyBoard adminKey) .auth overview := by
  refine ⟨by decide +kernel, ⟨(callerOf openSettings (overviewRequest [])).clientIp, none⟩,
    Gate.keyBoard adminKey, ?_, rfl⟩
  have hpass := Gate.evaluate_onMachine (s := openSettings) (c := callerOf openSettings (overviewRequest []))
    rfl (by decide +kernel) (by decide +kernel) (Gate.keyBoard adminKey)
  exact run_entered_of_pass rfl hpass (run_checkAdmin_of_none overviewRequest_keyless)

/-- On the machine itself everyone reaches the listing of keys without being granted the role of an admin. -/
theorem overview_without_key :
    ¬(Runs openSettings (overviewRequest []) (Gate.keyBoard adminKey) .auth overview →
      openSettings.noAuth = true ∨ ∃ st, (Gate.keyBoard adminKey).database = .ready st ∧
        st.Grants [.admin] (callerOf openSettings (overviewRequest []))) := by
  intro h
  rcases h overview_runs_on_machine with hfree | ⟨st, hst, -, hlisted | hkeyless | ⟨secret, hkey, -⟩⟩
  · cases hfree
  · cases hst
    cases hlisted
  · cases hst
    cases hkeyless
  · cases overviewRequest_keyless.symm.trans hkey

end Pasteboard
