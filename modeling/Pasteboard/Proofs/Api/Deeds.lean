import Pasteboard.Proofs.Api.Serving
import Pasteboard.Proofs.Slots.Calls
/-!
The changes that a request asks for.

A handler looks at its request and at the data, and then makes changes that it read off the request. So whatever is
kept by the use of a key and by every change that a request asks for is kept by the request.
-/

namespace Pasteboard
open Api Board
open Pasteboard.Http

/-- A change: a call on slots, or an operation on keys and rules. -/
inductive Deed
  | slots (c : Capacity) (call : SlotCall)
  | access (call : AccessCall)

/-- The board after a change. -/
def Deed.on (b : Board) : Deed → Board
  | .slots c call => ((call.perform c).on b).2
  | .access call => call.on b

/-- Whatever the data is, a change moves it as the relation says. -/
def Deed.Moves (R : Store → Store → Prop) (deed : Deed) : Prop := ∀ b, R b.store (deed.on b).store

namespace Api

/-- What a request asks for at a route by a method, as its parameters and its body are read. -/
inductive Asks (s : Settings) (r : Request) (actor : Actor) : Route → String → Deed → Prop
  | insert {body : WriteBody} {x : Payload} (hx : payloadOf s r.target.params body = .ok x) :
    Asks s r actor .root "POST" (.slots (capacityOf s) (.insert x))
  | update {id : Int} {body : WriteBody} {x : Payload} (hx : payloadOf s r.target.params body = .ok x) :
    Asks s r actor .root "PUT" (.slots (capacityOf s) (.rewrite id (.update x) actor))
  | patchText {id : Int} {body : Json} {content : Option String} (hcontent : patchedText s body = .ok content) :
    Asks s r actor .root "PATCH" (.slots (capacityOf s) (.rewrite id (.patchText content) actor))
  | patchFile {id : Int} {f : UploadForm} {patch : Store.FilePatch}
    (hpatch : patchedFields s r.target.params f = .ok patch) :
    Asks s r actor .root "PATCH" (.slots (capacityOf s) (.rewrite id (.patchFile patch) actor))
  | delete {id : Int} : Asks s r actor .root "DELETE" (.slots (capacityOf s) (.delete id))
  | restore {id : Int} : Asks s r actor .restore "POST" (.slots (capacityOf s) (.rewrite id .restore actor))
  | issueKey {role : Role} {label : Option String} {enabled : Bool} :
    Asks s r actor .keys "POST" (.access (.issueKey role label enabled))
  | setRole {id : Int} {role : Role} (hid : requiredId r.target.params = .ok id) :
    Asks s r actor .keys "PATCH" (.access (.setRole id role))
  | setLabel {id : Int} {label : Option String} (hid : requiredId r.target.params = .ok id) :
    Asks s r actor .keys "PATCH" (.access (.setLabel id label))
  | setEnabled {id : Int} {fields : KeyFields} {enabled : Bool} (hid : requiredId r.target.params = .ok id)
    (hfields : KeyFields.read s r = .ok fields) (henabled : fields.enabled = some enabled) :
    Asks s r actor .keys "PATCH" (.access (.setEnabled id enabled))
  | disable {id : Int} (hid : requiredId r.target.params = .ok id) :
    Asks s r actor .keys "DELETE" (.access (.setEnabled id false))
  | deleteKey {id : Int} (hid : requiredId r.target.params = .ok id) :
    Asks s r actor .keys "DELETE" (.access (.deleteKey id))
  | addRule {list : RuleList} {cidr : String} : Asks s r actor .rules "POST" (.access (.addRule list cidr))
  | removeRule {list : RuleList} {id : Int} : Asks s r actor .rules "DELETE" (.access (.removeRule list id))

variable {R : Store → Store → Prop} {s : Settings} {r : Request} {actor : Actor} {route : Route} {b b' : Board}

/-! ### Changes of slots -/

section
variable {c : Capacity} {id : Int} {x : Payload} {how : Rewrite}

theorem allocate_moves (h : Deed.Moves R (.slots c (.insert x))) : Moves R (Board.allocate c x) := .of_report h

theorem rewrite_moves (h : Deed.Moves R (.slots c (.rewrite id how actor))) : Moves R (how.perform c id actor) :=
  .of_report h

theorem delete_moves (h : Deed.Moves R (.slots c (.delete id))) : Moves R (Board.delete id) := .of_report h

end

/-! ### Handlers -/

/-- Every change that a request asks for at a route by a method moves the data as the relation says. -/
def AllMove (R : Store → Store → Prop) (s : Settings) (r : Request) (actor : Actor) (route : Route) (method : String) :
    Prop :=
  ∀ deed, Asks s r actor route method deed → deed.Moves R

theorem postSlot_moves (hrefl : ∀ s, R s s) (h : AllMove R s r actor .root "POST") :
    Moves R (postSlot s r r.target.params) := by
  refine .bind hrefl (.known _) fun body => .of_known hrefl fun x hx => ?_
  exact .report ((allocate_moves (h _ (.insert hx))).adapt _) _

theorem putSlot_moves (hrefl : ∀ s, R s s) (h : AllMove R s r actor .root "PUT") :
    Moves R (putSlot s r r.target.params actor) := by
  refine .bind hrefl (.known _) fun id => .bind hrefl (.known _) fun body => .of_known hrefl fun x hx => ?_
  exact .report ((rewrite_moves (h _ (.update hx))).adapt _) _

theorem patchSlot_moves (hrefl : ∀ s, R s s) (h : AllMove R s r actor .root "PATCH") :
    Moves R (patchSlot s r r.target.params actor) := by
  refine .bind hrefl (.known _) fun id => .bind hrefl (.known _) fun body => ?_
  cases body with
  | json body =>
    refine .of_known hrefl fun content hcontent => ?_
    exact .report ((rewrite_moves (h _ (.patchText hcontent))).adapt _) _
  | form f =>
    refine .of_known hrefl fun patch hpatch => ?_
    exact .report ((rewrite_moves (h _ (.patchFile hpatch))).adapt _) _

theorem deleteSlot_moves (hrefl : ∀ s, R s s) (h : AllMove R s r actor .root "DELETE") :
    Moves R (deleteSlot r.target.params) := by
  refine .bind hrefl (.known _) fun id => ?_
  exact .report ((delete_moves (h _ .delete)).adapt _) _

theorem restoreSlot_moves (hrefl : ∀ s, R s s) (h : AllMove R s r actor .restore "POST") :
    Moves R (restoreSlot s r.target.params actor) := by
  refine .bind hrefl (.known _) fun id => ?_
  exact .report ((rewrite_moves (h _ .restore)).adapt _) _

theorem createKey_moves (hrefl : ∀ s, R s s) (h : AllMove R s r actor .keys "POST") : Moves R (createKey s r) := by
  have hissue (role : Role) (label : Option String) (enabled : Bool) : Moves R (Board.issueKey role label enabled) :=
    h _ .issueKey
  unfold createKey
  dsimp only
  cases ((KeyFields.read s r).toOption.getD {}).role with
  | some raw => exact .bind hrefl (.known _) fun _ => .report ((hissue _ _ _).adapt _) _
  | none => exact .bind hrefl (.pure _) fun _ => .report ((hissue _ _ _).adapt _) _

theorem changeKey_moves (hrefl : ∀ s, R s s) (htrans : ∀ s t u, R s t → R t u → R s u)
    (h : AllMove R s r actor .keys "PATCH") {id : Int} {fields : KeyFields} (hid : requiredId r.target.params = .ok id)
    (hfields : KeyFields.read s r = .ok fields) (role : Option Role) : Moves R (changeKey id role fields) := by
  have hread : Moves R (Board.getKey id) := .of_readonly hrefl getKey_readonly
  obtain ⟨word, label, enabled⟩ := fields
  -- From the last change back to the first, since each is followed by what comes after it.
  have hstate : Moves R (changeKey id none ⟨word, none, enabled⟩) := by
    cases enabled with
    | some enabled => exact .seq htrans (h _ (.setEnabled hid hfields rfl)) fun _ => hread
    | none => exact hread
  have hlabelled : Moves R (changeKey id none ⟨word, label, enabled⟩) := by
    cases label with
    | some label => exact .seq htrans (h _ (.setLabel hid)) fun _ => hstate
    | none => exact hstate
  cases role with
  | some role => exact .seq htrans (h _ (.setRole hid)) fun _ => hlabelled
  | none => exact hlabelled

theorem updateKey_moves (hrefl : ∀ s, R s s) (htrans : ∀ s t u, R s t → R t u → R s u)
    (h : AllMove R s r actor .keys "PATCH") : Moves R (updateKey s r r.target.params) :=
  updateKey_induction (fun _ hf => .of_known hrefl hf) (.of_readonly hrefl (.throw _))
    fun _ role _ hid hfields => .report ((changeKey_moves hrefl htrans h hid hfields role).adapt _) _

theorem deleteKey_moves (hrefl : ∀ s, R s s) (h : AllMove R s r actor .keys "DELETE") :
    Moves R (deleteKey r.target.params) := by
  refine deleteKey_induction (fun _ hf => .of_known hrefl hf) (fun id hid => ?_) fun id hid => ?_
  · have hdelete : Moves R (Board.deleteKey id) := h _ (.deleteKey hid)
    exact .report (hdelete.adapt _) _
  · have hdisable : Moves R (Board.setEnabled id false) := h _ (.disable hid)
    exact .report (hdisable.adapt _) _

theorem addRule_moves (hrefl : ∀ s, R s s) (h : AllMove R s r actor .rules "POST") : Moves R (addRule s r) := by
  have hadd (list : RuleList) (cidr : String) : Moves R (Board.addRule list cidr) := fun b => by
    have hb := h (.access (.addRule list cidr)) .addRule b
    rwa [Deed.on, AccessCall.on, ← run_eq_on] at hb
  refine .bind hrefl (.known _) fun rule => ?_
  obtain ⟨word, cidr⟩ := rule
  exact .bind hrefl (.known _) fun list => .report ((hadd list cidr).adapt _) _

theorem removeRule_moves (hrefl : ∀ s, R s s) (h : AllMove R s r actor .rules "DELETE") :
    Moves R (removeRule r.target.params) := by
  have hremove (list : RuleList) (id : Int) : Moves R (Board.removeRule list id) := h _ .removeRule
  unfold removeRule
  dsimp only
  cases r.target.params.lookup "list" with
  | some raw =>
    exact .bind hrefl (.known _) fun list => .bind hrefl (.known _) fun id => .report ((hremove list id).adapt _) _
  | none => exact .of_readonly hrefl (.throw _)

/-- A handler moves the data as the relation says if every change that the request asks for does. -/
theorem handler?_moves {visitor : Gate.Visitor} {h : Handler Response} (hrefl : ∀ s, R s s)
    (htrans : ∀ s t u, R s t → R t u → R s u) (hall : AllMove R s r (actorOf visitor) route r.method)
    (hh : handler? s route r visitor = some h) : Moves R h := by
  rcases handler?_cases hh with hread | ⟨-, hwrite, -⟩
  · exact .of_readonly hrefl hread
  · have hhead : ¬(r.method == "HEAD") = true := fun hhead => by simp [Gate.isRead, hhead] at hwrite
    unfold handler? at hh
    rw [if_neg hhead] at hh
    -- One case for each entry of the routing table.
    generalize r.method = method at hall hh
    dsimp only at hh
    split at hh <;> cases hh
    · exact .of_readonly hrefl Api.getSlot_readonly
    · exact postSlot_moves hrefl hall
    · exact putSlot_moves hrefl hall
    · exact patchSlot_moves hrefl hall
    · exact deleteSlot_moves hrefl hall
    · exact .of_readonly hrefl Api.search_readonly
    · exact .of_readonly hrefl searchByBody_readonly
    · exact restoreSlot_moves hrefl hall
    · exact .of_readonly hrefl health_readonly
    · exact .of_readonly hrefl overview_readonly
    · exact .of_readonly hrefl listSlots_readonly
    · exact createKey_moves hrefl hall
    · exact updateKey_moves hrefl htrans hall
    · exact deleteKey_moves hrefl hall
    · exact addRule_moves hrefl hall
    · exact removeRule_moves hrefl hall

/-! ### Requests -/

/-- A request moves the data as the relation says if the noting of a use and every change that it asks for do. -/
theorem serve_moves (hrefl : ∀ s, R s s) (htrans : ∀ s t u, R s t → R t u → R s u)
    (huse : ∀ {id s t}, s.SameButUse id t → R s t)
    (hall : ∀ route, routeOf? s r = some route → ∀ visitor, AllMove R s (told s r) (actorOf visitor) route r.method) :
    R b.store (b.serve s r).2.store := by
  have hnoted {b b' : Board} (h : OnlyUseNoted s r b b') : R b.store b'.store := by
    rcases h with hsame | ⟨_, _, st, t, _, -, hst, ht, h⟩
    · rw [store_congr hsame]
      exact hrefl _
    · rw [store_eq hst, store_eq ht]
      exact huse h
  have hserved := serve_served s r b
  generalize (b.serve s r).1.status = status, (b.serve s r).2 = last at hserved ⊢
  cases hserved with
  | unknown => exact hrefl _
  | refused hroute refused => exact hnoted (noted_of_error refused)
  | noMethod hroute entered => exact hnoted entered.noted
  | @handled route visitor h b' _ response hroute entered hhandler hrun =>
    have hlast : (b'.run h).2 = last := by rcases hrun with hrun | hrun <;> rw [hrun]
    have hmoves := handler?_moves hrefl htrans (hall route hroute visitor) hhandler b'
    rw [hlast] at hmoves
    exact htrans _ _ _ (hnoted entered.noted) hmoves

end Api

end Pasteboard
