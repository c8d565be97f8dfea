import Pasteboard.Proofs.Api.Serving
/-!
The whole answer to a request.

Where the answer has a body it is that of the handler, from the board that letting the visitor in left, or the refusal
of the gate.
-/

namespace Pasteboard.Api

open Board
open Pasteboard.Http

variable {s : Settings} {r : Request} {route : Route} {visitor : Gate.Visitor} {b b' : Board} {e : Response}

/-- But for `HEAD`, the whole answer is that at the route. -/
theorem serve_eq (hroute : routeOf? s r = some route) (hhead : r.method ≠ "HEAD") :
    b.serve s r = (atRoute s route (told s r)).answer.run b := by
  have hsome : (BasePath.below? s.basePath r.target.path).bind Route.ofPath? = some route := hroute
  have hserve : b.serve s r = (do
      let response ← (atRoute s route (told s r)).answer
      return if isHeadOnly s route (told s r) then response.withoutBody else response :
        StateM Board Response).run b := by
    rw [Board.serve, answer, hsome]
    rfl
  have hbody : isHeadOnly s route (told s r) = false := by
    have hmethod : ((told s r).method == "HEAD") = false := beq_eq_false_iff_ne.mpr hhead
    rw [isHeadOnly, hmethod, Bool.false_and]
  rw [hserve, hbody]
  rfl

theorem serve_handled {h : Handler Response} (hroute : routeOf? s r = some route) (hhead : r.method ≠ "HEAD")
    (hentered : b.run (entered s route (told s r)) = (.ok visitor, b'))
    (hhandler : handler? s route (told s r) visitor = some h) : b.serve s r = h.answer.run b' := by
  rw [serve_eq hroute hhead, run_answer, run_atRoute hentered hhandler, run_answer]

theorem serve_refused (hroute : routeOf? s r = some route) (hhead : r.method ≠ "HEAD")
    (hentered : b.run (entered s route (told s r)) = (.error e, b')) : b.serve s r = (e, b') := by
  rw [serve_eq hroute hhead, run_answer, atRoute, run_bind, hentered]

theorem not_head (h : r.method = "GET" ∨ r.method = "POST") : r.method ≠ "HEAD" := by
  rcases h with h | h <;> rw [h] <;> decide

theorem handler?_search (h : r.method = "GET") :
    handler? s .search (told s r) visitor = some (search s r.target.params) := by
  have hmethod : (told s r).method = "GET" := h
  unfold handler?
  rw [hmethod]
  rfl

/-- Without authentication everyone is let in. -/
theorem run_admitted_of_free (hfree : s.noAuth = true) :
    b.run (admitted s r) = (.ok ⟨(Gate.Caller.of s r).clientIp, none⟩, b) := by
  refine run_admitted_of_pass ?_
  rw [Gate.evaluate, if_pos hfree, Action.on_pure]

end Pasteboard.Api
