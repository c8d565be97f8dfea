import Pasteboard.Proofs.Access.Gate
import Pasteboard.Proofs.Api.Handlers
import Pasteboard.Proofs.Api.Paths
/-!
What becomes of a request, from its route to its answer.

A request is for no route, is turned away, finds no handler for its method, or is handled. Until it is handled the
only thing that changes is the use of the key that it passed by.
-/

namespace Pasteboard

open Api Board
open Pasteboard.Http

/-- The rows of slots, and the entries of the log of overwrites. -/
def Database.written : Database → List Row × List LogEntry
  | .ready s => (s.slots, s.log)
  | _ => ([], [])

/-- The answer to a request, and the board afterwards. -/
def Board.serve (b : Board) (s : Settings) (r : Request) : Response × Board := (answer s r).run b

namespace Api
variable {s : Settings} {r : Request} {route : Route} {visitor : Gate.Visitor} {b b' : Board}

/-! ### Entering -/

/-- What the gate looks at in a request. -/
def callerOf (s : Settings) (r : Request) : Gate.Caller := Gate.Caller.of s (told s r)

/-- The data are as they were, but for the use of the key that the gate admitted a request by. -/
def OnlyUseNoted (s : Settings) (r : Request) (b b' : Board) : Prop :=
  b'.database = b.database ∨ ∃ ip key st t after,
    (Gate.evaluate s (callerOf s r)).on b = (.ok (.pass ⟨ip, some key⟩), after) ∧
      b.database = .ready st ∧ b'.database = .ready t ∧ st.SameButUse key t

/-- A visitor was let in to a route. -/
structure Entered (s : Settings) (r : Request) (route : Route) (visitor : Gate.Visitor) (b b' : Board) : Prop where
  gate : route = .health ∧ b' = b ∨ ∃ after, (Gate.evaluate s (callerOf s r)).on b = (.ok (.pass visitor), after) ∧
    Gate.Passes s (callerOf s r) b visitor.keyId after ∧ b'.database = after.database
  admin : route.isAdmin = true → ∀ secret, (callerOf s r).key = some secret →
    ∃ st, b.database = .ready st ∧ st.Vouches [.admin] secret

theorem run_act {α : Type} (a : Action α) (onFailure : StoreError → Response) :
    b.run (act a onFailure) = ((a.on b).1.mapError onFailure, (a.on b).2) := rfl

theorem run_admitted_of_pass (h : (Gate.evaluate s (Gate.Caller.of s r)).on b = (.ok (.pass visitor), b')) :
    b.run (admitted s r) = (.ok visitor, b') := by
  rw [admitted, run_bind, run_act, h]
  rfl

/-- The gate lets a request pass, or answers it and leaves the board alone. -/
theorem admitted_cases (s : Settings) (r : Request) (b : Board) :
    (∃ visitor after, b.run (admitted s r) = (.ok visitor, after) ∧
      (Gate.evaluate s (Gate.Caller.of s r)).on b = (.ok (.pass visitor), after) ∧
      Gate.Passes s (Gate.Caller.of s r) b visitor.keyId after) ∨
    ∃ response, b.run (admitted s r) = (.error response, b) := by
  unfold admitted
  rw [run_bind, run_act]
  have hdecided := Gate.evaluate_decided s (Gate.Caller.of s r) b
  generalize (Gate.evaluate s (Gate.Caller.of s r)).on b = outcome at hdecided ⊢
  cases hdecided with
  | passes hp => exact Or.inl ⟨_, _, rfl, rfl, hp⟩
  | denied => exact Or.inr ⟨_, rfl⟩
  | failed => exact Or.inr ⟨_, rfl⟩

theorem checkAdmin_passes (h : b.run (checkAdmin r) = (.ok (), b')) :
    ∀ secret, Gate.presentedKey r.headers r.target = some secret →
      ∃ st, b.database = .ready st ∧ st.Vouches [.admin] secret := by
  unfold checkAdmin at h
  rw [run_bind, run_act] at h
  rcases he : (Gate.evaluateAdmin (Gate.presentedKey r.headers r.target)).on b with ⟨e | denial, after⟩ <;>
    rw [he] at h
  · cases h
  · cases denial with
    | none => exact Gate.evaluateAdmin_passes he
    | some denial => cases h

theorem run_checkAdmin_of_none (absent : Gate.presentedKey r.headers r.target = none) :
    b.run (checkAdmin r) = (.ok (), b) := by
  rw [checkAdmin, run_bind, run_act, absent]
  rfl

theorem run_checkAdmin_of_found {st : Store} {secret : String} {key : ApiKey}
    (presented : Gate.presentedKey r.headers r.target = some secret) (ready : b.database = .ready st)
    (found : st.findKey secret = some key) (named : Role.named? key.role = some .admin) :
    b.run (checkAdmin r) = (.ok (), b) := by
  rw [checkAdmin, run_bind, run_act, presented, Gate.evaluateAdmin_of_found ready found named]
  rfl

theorem checkAdmin_readonly : Readonly (checkAdmin r) := by
  refine Readonly.bind (act_readonly (Gate.evaluateAdmin_readonly _)) fun denial => ?_
  cases denial with
  | none => exact .pure _
  | some denial => exact .throw _

theorem run_entered (h : route ≠ .health) : b.run (entered s route r) = match b.run (admitted s r) with
    | (.error response, after) => (.error response, after)
    | (.ok visitor, after) =>
      if route.isAdmin then match after.run (checkAdmin r) with
        | (.error response, last) => (.error response, last)
        | (.ok (), last) => (.ok visitor, last)
      else (.ok visitor, after) := by
  unfold entered
  rw [if_neg h, run_bind]
  rcases b.run (admitted s r) with ⟨_ | visitor, after⟩
  · rfl
  · dsimp only
    by_cases hadmin : route.isAdmin = true
    · rw [if_pos hadmin, if_pos hadmin, run_bind]
      rcases after.run (checkAdmin r) with ⟨_ | _, last⟩ <;> rfl
    · rw [if_neg hadmin, if_neg hadmin]
      rfl

theorem run_entered_of_pass {after last : Board} (hadmin : route.isAdmin = true)
    (hpass : (Gate.evaluate s (Gate.Caller.of s r)).on b = (.ok (.pass visitor), after))
    (hcheck : after.run (checkAdmin r) = (.ok (), last)) : b.run (entered s route r) = (.ok visitor, last) := by
  have hhealth : route ≠ .health := by
    rintro rfl
    cases hadmin
  rw [run_entered hhealth, run_admitted_of_pass hpass]
  dsimp only
  rw [if_pos hadmin, hcheck]

theorem OnlyUseNoted.of_passes {after : Board}
    (he : (Gate.evaluate s (callerOf s r)).on b = (.ok (.pass visitor), after))
    (hp : Gate.Passes s (callerOf s r) b visitor.keyId after) (hb : b'.database = after.database) :
    OnlyUseNoted s r b b' := by
  rcases hp.noted with hsame | ⟨key, st, t, hkey, hst, ht, huse⟩
  · exact Or.inl (hb.trans hsame)
  · obtain ⟨ip, _⟩ := visitor
    obtain rfl : _ = some key := hkey
    exact Or.inr ⟨ip, key, st, t, after, he, hst, hb.trans ht, huse⟩

theorem Entered.noted (h : Entered s r route visitor b b') : OnlyUseNoted s r b b' := by
  rcases h.gate with ⟨-, rfl⟩ | ⟨after, he, hp, hb⟩
  · exact Or.inl rfl
  · exact .of_passes he hp hb

/-- A visitor is let in to a route, or turned away and at most the use of its key is noted. -/
theorem entered_cases (s : Settings) (r : Request) (route : Route) (b : Board) :
    (∃ visitor b', b.run (entered s route (told s r)) = (.ok visitor, b') ∧ Entered s r route visitor b b') ∨
      ∃ response b', b.run (entered s route (told s r)) = (.error response, b') ∧ OnlyUseNoted s r b b' := by
  by_cases hhealth : route = .health
  · subst hhealth
    exact Or.inl ⟨_, b, rfl, Or.inl ⟨rfl, rfl⟩, nofun⟩
  rw [run_entered hhealth]
  rcases admitted_cases s (told s r) b with ⟨visitor, after, hadmitted, he, hp⟩ | ⟨response, hadmitted⟩ <;>
    rw [hadmitted] <;> dsimp only
  · by_cases hadmin : route.isAdmin = true
    · rw [if_pos hadmin]
      -- The second gate stands behind the first, so it asks for a key after its use was noted.
      have hsame := checkAdmin_readonly (r := told s r) after
      rcases hcheck : after.run (checkAdmin (told s r)) with ⟨response | _, last⟩ <;> rw [hcheck] at hsame
      · exact Or.inr ⟨_, _, rfl, .of_passes he hp hsame⟩
      · exact Or.inl ⟨_, _, rfl, Or.inr ⟨after, he, hp, hsame⟩, fun _ secret hsecret =>
          hp.vouched_before (checkAdmin_passes hcheck secret hsecret)⟩
    · rw [if_neg hadmin]
      exact Or.inl ⟨_, _, rfl, Or.inr ⟨_, he, hp, rfl⟩, fun h => absurd h hadmin⟩
  · exact Or.inr ⟨_, _, rfl, Or.inl rfl⟩

theorem entered_of_ok (h : b.run (entered s route (told s r)) = (.ok visitor, b')) :
    Entered s r route visitor b b' := by
  rcases entered_cases s r route b with ⟨_, _, hrun, hentered⟩ | ⟨_, _, hrun, -⟩ <;> cases h.symm.trans hrun
  exact hentered

theorem noted_of_error {response : Response} (h : b.run (entered s route (told s r)) = (.error response, b')) :
    OnlyUseNoted s r b b' := by
  rcases entered_cases s r route b with ⟨_, _, hrun, -⟩ | ⟨_, _, hrun, hnoted⟩ <;> cases h.symm.trans hrun
  exact hnoted

/-! ### Serving -/

/-- How a request is answered: it is for no route, is turned away, finds no handler, or is handled. -/
inductive Served (s : Settings) (r : Request) (b : Board) : Nat → Board → Prop
  | unknown (noRoute : routeOf? s r = none) : Served s r b 404 b
  | refused {route : Route} {response : Response} {b' : Board} (hroute : routeOf? s r = some route)
      (refused : b.run (entered s route (told s r)) = (.error response, b')) : Served s r b response.status b'
  | noMethod {route : Route} {visitor : Gate.Visitor} {b' : Board} (hroute : routeOf? s r = some route)
      (entered : Entered s r route visitor b b') (noHandler : handler? s route (told s r) visitor = none) :
      Served s r b 405 b'
  | handled {route : Route} {visitor : Gate.Visitor} {h : Handler Response} {b' b'' : Board} {response : Response}
      (hroute : routeOf? s r = some route) (entered : Entered s r route visitor b b')
      (hhandler : handler? s route (told s r) visitor = some h)
      (hrun : b'.run h = (.ok response, b'') ∨ b'.run h = (.error response, b'')) : Served s r b response.status b''

/-- The answer of a handler, early or not, and the board afterwards. -/
theorem run_answer (h : Handler Response) (b : Board) : h.answer.run b = match b.run h with
    | (.ok response, b') => (response, b')
    | (.error response, b') => (response, b') := by
  have hrun : (ExceptT.run h).run b = b.run h := rfl
  rw [Handler.answer, StateT.run_bind, hrun]
  rcases b.run h with ⟨_ | _, _⟩ <;> rfl

theorem run_answer_board (h : Handler Response) (b : Board) : (h.answer.run b).2 = (b.run h).2 := by
  rw [run_answer]
  rcases b.run h with ⟨_ | _, _⟩ <;> rfl

/-- A visitor who was let in reaches the handler. -/
theorem run_atRoute {h : Handler Response} (hentered : b.run (entered s route r) = (.ok visitor, b'))
    (hhandler : handler? s route r visitor = some h) : b.run (atRoute s route r) = b'.run h := by
  rw [atRoute, run_bind_of_ok hentered, hhandler]

/-- An answer to `HEAD` loses its body and nothing else. -/
theorem serve_of_route (hroute : routeOf? s r = some route) :
    (b.serve s r).1.status = ((atRoute s route (told s r)).answer.run b).1.status ∧
      (b.serve s r).2 = ((atRoute s route (told s r)).answer.run b).2 := by
  have hsome : (BasePath.below? s.basePath r.target.path).bind Route.ofPath? = some route := hroute
  have hserve : b.serve s r = (do
      let response ← (atRoute s route (told s r)).answer
      return if isHeadOnly s route (told s r) then response.withoutBody else response :
        StateM Board Response).run b := by
    rw [Board.serve, answer, hsome]
    rfl
  rcases hanswer : (atRoute s route (told s r)).answer.run b with ⟨response, b'⟩
  rw [hserve, StateT.run_bind, hanswer]
  refine ⟨?_, rfl⟩
  show (if isHeadOnly s route (told s r) then response.withoutBody else response).status = response.status
  by_cases hhead : isHeadOnly s route (told s r) = true
  · rw [if_pos hhead]
    rfl
  · rw [if_neg hhead]

theorem serve_served (s : Settings) (r : Request) (b : Board) :
    Served s r b (b.serve s r).1.status (b.serve s r).2 := by
  cases hroute : routeOf? s r with
  | none =>
    have hserve : b.serve s r = (.bare 404, b) := by
      have hnone : (BasePath.below? s.basePath r.target.path).bind Route.ofPath? = none := hroute
      rw [Board.serve, answer, hnone]
      rfl
    rw [hserve]
    exact .unknown hroute
  | some route =>
    obtain ⟨hstatus, hafter⟩ := serve_of_route (b := b) hroute
    rw [hstatus, hafter, run_answer, atRoute, run_bind]
    rcases hentered : b.run (entered s route (told s r)) with ⟨response | visitor, b'⟩
    · exact .refused hroute hentered
    · dsimp only
      cases hhandler : handler? s route (told s r) visitor with
      | none => exact .noMethod hroute (entered_of_ok hentered) hhandler
      | some h =>
        dsimp only
        rcases hrun : b'.run h with ⟨response | response, b''⟩
        · exact .handled hroute (entered_of_ok hentered) hhandler (Or.inr hrun)
        · exact .handled hroute (entered_of_ok hentered) hhandler (Or.inl hrun)

theorem OnlyUseNoted.congr {b'' : Board} (h : OnlyUseNoted s r b b') (hb : b''.database = b'.database) :
    OnlyUseNoted s r b b'' := by
  rcases h with hsame | ⟨ip, key, st, t, after, he, hst, ht, huse⟩
  · exact Or.inl (hb.trans hsame)
  · exact Or.inr ⟨ip, key, st, t, after, he, hst, hb.trans ht, huse⟩

theorem OnlyUseNoted.written (h : OnlyUseNoted s r b b') : b'.database.written = b.database.written := by
  rcases h with hsame | ⟨_, _, st, t, _, -, hst, ht, huse⟩
  · rw [hsame]
  · rw [hst, ht]
    exact Prod.ext huse.slots huse.log

/-- More than the use of a key changes only where a visitor was let in to a route by a method that is no read there,
and is answered with a success. -/
theorem serve_cases (s : Settings) (r : Request) (b : Board) :
    OnlyUseNoted s r b (b.serve s r).2 ∨
      ∃ route visitor b', routeOf? s r = some route ∧ route ≠ .health ∧ Entered s r route visitor b b' ∧
        Gate.isRead r.method route.path = false ∧ (b.serve s r).1.status < 400 := by
  have hserved := serve_served s r b
  generalize (b.serve s r).1.status = status, (b.serve s r).2 = last at hserved ⊢
  cases hserved with
  | unknown => exact Or.inl (Or.inl rfl)
  | refused hroute refused => exact Or.inl (noted_of_error refused)
  | noMethod hroute entered => exact Or.inl entered.noted
  | handled hroute entered hhandler hrun =>
    rename_i route visitor h b' response
    rcases handler?_cases hhandler with hread | ⟨hhealth, hwrite, hchange⟩
    · have hsame := hread b'
      rcases hrun with hrun | hrun <;> rw [hrun] at hsame <;> exact Or.inl (entered.noted.congr hsame)
    · have hall := hchange b'
      rcases hrun with hrun | hrun <;> rw [hrun] at hall <;> rcases hall with hsame | ⟨response', hok, hstatus⟩
      · exact Or.inl (entered.noted.congr hsame)
      · cases hok
        exact Or.inr ⟨route, visitor, b', hroute, hhealth, entered, hwrite, hstatus⟩
      · exact Or.inl (entered.noted.congr hsame)
      · cases hok

end Api

end Pasteboard
