import Pasteboard.Proofs.Api.Answers
import Pasteboard.Proofs.Api.Disguise
import Pasteboard.Proofs.Settings
import Pasteboard.Proofs.Slots.Calls
import Pasteboard.Proofs.Text.Numeral
/-!
Listing slots by a search without a text, and as administration.

Both read their parameters on their own. They answer alike unless the offset is unreadable, for which each has its own
code, or the limit is a number with a minus, which only a search reads.
-/

namespace Pasteboard

open Api Board
open Pasteboard.Http
open Pasteboard.Text

/-! ### Parts of answers -/

namespace Http.Response

/-- The part of the JSON body of an answer that stands under a path of names. -/
def part (r : Response) (path : List String) : Option Json :=
  match r.content with
  | .json v => path.foldlM (fun v name => v.member? name) v
  | _ => none

/-- Both answers list the same page of the same listing, or both have an error of the same code. -/
def Alike (p q : Response) : Prop :=
  (p.status = 200 ∧ q.status = 200 ∧
    ∀ path ∈ [["data"], ["meta", "count"], ["meta", "limit"], ["meta", "total"]],
      ∃ v, p.part path = some v ∧ q.part path = some v) ∨
  ∃ code : ErrorCode, p.status = code.status ∧ q.status = code.status ∧
    p.part ["error", "code"] = some (.str code.name) ∧ q.part ["error", "code"] = some (.str code.name)

end Http.Response

open Http.Response

/-! ### Boards without tables -/

/-- Why a statement on slots fails, where there are no tables. -/
def Database.slotFault : Database → Option StoreError
  | .unopenable place => some (.cannotOpen place)
  | .blank => some (.database (.noTable .slots))
  | .ready _ => none

theorem Board.on_ask_slotFault {α : Type} {f : Store → Except StoreError α} {b : Board} {e : StoreError}
    (h : b.database.slotFault = some e) : (ask .slots f).on b = (.error e, b) := by
  obtain ⟨_ | _ | _, _, _⟩ := b <;> cases h <;> rfl

theorem Board.on_count {f : Filter} {b : Board} {s : Store} (h : b.database = .ready s) :
    (count f).on b = (.ok (s.count f), b) := on_ask h

theorem Database.ready_or_slotFault (d : Database) : (∃ s, d = .ready s) ∨ ∃ e, d.slotFault = some e := by
  cases d with
  | unopenable place => exact Or.inr ⟨_, rfl⟩
  | blank => exact Or.inr ⟨_, rfl⟩
  | ready s => exact Or.inl ⟨s, rfl⟩

namespace Api

theorem part_failure (code : ErrorCode) (message : String) (details : Option Json) :
    (failure code message details).part ["error", "code"] = some (.str code.name) := by
  cases details <;> rfl

theorem alike_failure (code : ErrorCode) (message message' : String) (details details' : Option Json) :
    Alike (failure code message details) (failure code message' details') :=
  Or.inr ⟨code, rfl, rfl, part_failure .., part_failure ..⟩

theorem alike_storeFailure (e : StoreError) : Alike (storeFailure e) (storeFailure e) := by
  cases e <;> exact alike_failure ..

theorem name_injective {code code' : ErrorCode} (h : code.name = code'.name) : code = code' := by
  cases code <;> cases code' <;> first | rfl | exact absurd h (by decide)

theorem code_eq_of_alike {code code' : ErrorCode} {message message' : String} {details details' : Option Json}
    (h : Alike (failure code message details) (failure code' message' details')) : code = code' := by
  rcases h with ⟨h200, -, -⟩ | ⟨shared, -, -, hcode, hcode'⟩
  · have hstatus : code.status = 200 := h200
    exact absurd hstatus (by cases code <;> decide)
  · rw [part_failure] at hcode hcode'
    have hname : code.name = shared.name := Json.str.inj (Option.some.inj hcode)
    have hname' : code'.name = shared.name := Json.str.inj (Option.some.inj hcode')
    exact name_injective (hname.trans hname'.symm)

/-! ### Limits -/

section Limits
variable {s : Settings} {raw : Option String}

/-- The limit is a number with a minus sign, which may be zero. -/
def Minus (raw : Option String) : Prop :=
  ∃ word n, raw = some word ∧ word.toList.head? = some '-' ∧ Numeral.read? Numeral.int64 word = some n

/-- With a minus, the least page is searched for, and the largest one is listed. -/
theorem sizes_of_minus (h : Minus raw) :
    pageSize s raw = 1 ∧ fullPageSize s raw = s.limits.slots := by
  obtain ⟨word, n, rfl, hhead, hread⟩ := h
  obtain ⟨hsigned, -, -⟩ := (Numeral.read?_signed (by decide) (by decide)).mp hread
  have hminus : ¬∃ k, Numeral.Unsigned word.toList k := by
    rintro ⟨k, hk⟩
    have hmem : '-' ∈ word.toList := List.mem_of_head? (Option.mem_def.mpr hhead)
    exact hk.not_mem (by decide) (by decide) hmem
  have hneg : n ≤ 0 := by
    generalize word.toList = cs at hsigned hminus
    cases hsigned with
    | unsigned number => exact absurd ⟨_, number⟩ hminus
    | minus digits => omega
  have hnone : Numeral.read? Numeral.nat32 word = none := by
    cases hnat : Numeral.read? Numeral.nat32 word with
    | none => rfl
    | some m =>
      obtain ⟨k, rfl⟩ := Int.eq_ofNat_of_zero_le (Numeral.nonneg_of_read? rfl hnat)
      exact absurd ⟨k, ((Numeral.read?_unsigned rfl (by decide)).mp hnat).1⟩ hminus
  rw [pageSize, Option.bind_some, hread, fullPageSize, Option.bind_some, hnone]
  exact ⟨by show (max 1 (min n s.limits.slots)).toNat = 1; omega, rfl⟩

/-- Without a minus, both sizes are the same. -/
theorem sizes_of_not_minus (h : ¬Minus raw) (hslots : 1 ≤ s.limits.slots ∧ s.limits.slots ≤ 100) :
    pageSize s raw = fullPageSize s raw := by
  cases raw with
  | none => rfl
  | some word =>
    rw [pageSize, fullPageSize, Option.bind_some, Option.bind_some]
    cases hnat : Numeral.read? Numeral.nat32 word with
    | some m =>
      -- What is read as a number of 32 bits is read as one of 64.
      obtain ⟨k, rfl⟩ := Int.eq_ofNat_of_zero_le (Numeral.nonneg_of_read? rfl hnat)
      obtain ⟨hnumber, hk⟩ := (Numeral.read?_unsigned rfl (by decide)).mp hnat
      have hint : Numeral.read? Numeral.int64 word = some (k : Int) := by
        refine (Numeral.read?_signed (by decide) (by decide)).mpr ⟨.unsigned hnumber, ?_⟩
        simp only [Numeral.int64, Numeral.nat32] at hk ⊢
        omega
      rw [hint]
    | none =>
      cases hint : Numeral.read? Numeral.int64 word with
      | none => rfl
      | some n =>
        -- A number that is too large for 32 bits is larger than any page.
        obtain ⟨hsigned, -, -⟩ := (Numeral.read?_signed (by decide) (by decide)).mp hint
        have hlarge : 4294967295 < n := by
          generalize hcs : word.toList = cs at hsigned
          cases hsigned with
          | @unsigned _ k number =>
            by_contra hsmall
            have hk : Numeral.read? Numeral.nat32 word = some (k : Int) := by
              refine (Numeral.read?_unsigned rfl (by decide)).mpr ⟨hcs ▸ number, ?_⟩
              simp only [Numeral.nat32]
              omega
            rw [hnat] at hk
            cases hk
          | minus digits => exact absurd ⟨word, _, rfl, by rw [hcs]; rfl, hint⟩ h
        show (max 1 (min n s.limits.slots)).toNat = s.limits.slots
        omega

end Limits

/-! ### Handlers -/

section Handlers
variable {s : Settings} {params params' : Params} {b : Board} {st : Store} {o : Order} {n : Nat} {e : Response}
    {x : StoreError}

/-- The answer to an order that is none. -/
def badOrder : Response := badQuery "Invalid order" (some "expected asc or desc")

/-- The answers to an offset that is none, of a search and of administration. -/
def badOffsets : Response × Response :=
  (badQuery "Invalid offset" (some "expected a non-negative integer"), invalid "Invalid offset")

theorem orderOf_cases (raw : Option String) : (∃ o, orderOf raw = .ok o) ∨
    orderOf raw = .error badOrder ∧ ∃ word, raw = some word ∧ Order.read? word = none := by
  cases raw with
  | none => exact Or.inl ⟨_, rfl⟩
  | some word =>
    rw [orderOf]
    cases hread : Order.read? word with
    | some o => exact Or.inl ⟨o, rfl⟩
    | none => exact Or.inr ⟨rfl, word, rfl, hread⟩

theorem offset_cases (hcursor : params.word? "cursor" = none) :
    (∃ n, offsetOf (params.word? "offset") = .ok n ∧ positionOf params = .ok (.offset n)) ∨
      offsetOf (params.word? "offset") = .error badOffsets.2 ∧ positionOf params = .error badOffsets.1 ∧
        ∃ word, params.word? "offset" = some word ∧ Numeral.read? Numeral.nat64 word = none := by
  rw [positionOf, hcursor]
  cases hoffset : params.word? "offset" with
  | none => exact Or.inl ⟨0, rfl, rfl⟩
  | some word =>
    rw [offsetOf]
    dsimp only
    cases hread : Numeral.read? Numeral.nat64 word with
    | some n => exact Or.inl ⟨n.toNat, rfl, rfl⟩
    | none => exact Or.inr ⟨rfl, rfl, word, rfl, hread⟩

/-- The answer with a page of all slots. -/
def slotsAnswer (limit offset : Nat) (records : List Record) (total : Nat) : Response :=
  success 200 (recordsJson records) (some (.obj [("count", .nat records.length), ("limit", .nat limit),
    ("offset", .nat offset), ("total", .nat total)]))

theorem alike_pages (limit offset total : Nat) (records : List Record) (engine : Option Engine) :
    Alike (pageAnswer limit records total engine) (slotsAnswer limit offset records total) := by
  refine Or.inl ⟨rfl, rfl, fun path hpath => ?_⟩
  simp only [List.mem_cons, List.not_mem_nil, or_false] at hpath
  rcases hpath with rfl | rfl | rfl | rfl <;> exact ⟨_, rfl, rfl⟩

theorem limit_eq_of_alike {limit limit' offset total total' : Nat} {records records' : List Record}
    {engine : Option Engine}
    (h : Alike (pageAnswer limit records total engine) (slotsAnswer limit' offset records' total')) :
    limit = limit' := by
  rcases h with ⟨-, -, hparts⟩ | ⟨code, hstatus, -⟩
  · obtain ⟨v, hleft, hright⟩ := hparts ["meta", "limit"] (by simp)
    have hlimit : some (Json.nat limit) = some (Json.nat limit') := hleft.trans hright.symm
    exact Int.ofNat.inj (Number.whole.inj (Json.num.inj (Option.some.inj hlimit)))
  · have hcode : 200 = code.status := hstatus
    exact absurd hcode (by cases code <;> decide)

theorem run_search_of_error (h : SearchQuery.read s params = .error e) : b.run (search s params) = (.error e, b) := by
  rw [search, run_bind, run_of, h]

theorem read_of_order (h : orderOf (params.word? "order") = .error e) : SearchQuery.read s params = .error e := by
  rw [SearchQuery.read, h]
  rfl

theorem read_of_position (horder : orderOf (params.word? "order") = .ok o) (h : positionOf params = .error e) :
    SearchQuery.read s params = .error e := by
  rw [SearchQuery.read, horder, h]
  rfl

theorem read_of_ok (htext : params.word? "q" = none) (horder : orderOf (params.word? "order") = .ok o)
    (h : positionOf params = .ok (.offset n)) : SearchQuery.read s params =
      .ok ⟨none, pageSize s (params.word? "limit"), filterOf false o params, .offset n⟩ := by
  rw [SearchQuery.read, horder, h, htext]
  rfl

section Page
variable (htext : params.word? "q" = none) (horder : orderOf (params.word? "order") = .ok o)
  (hoffset : positionOf params = .ok (.offset n))
include htext horder hoffset

theorem run_search (hst : b.database = .ready st) :
    b.run (search s params) = (.ok (pageAnswer (pageSize s (params.word? "limit"))
      (st.list (pageSize s (params.word? "limit")) (filterOf false o params) (.offset n))
      (st.count (filterOf false o params)) none), b) := by
  have hfound : ∀ limit f position, (found s ⟨none, limit, f, position⟩).on b =
      (.ok (st.list limit f position, st.count f, none), b) := by
    intro limit f position
    rw [found]
    dsimp only
    rw [Action.on_bind_of_ok (on_list hst), Action.on_bind_of_ok (on_count hst), Action.on_pure]
  rw [search, run_bind_of_ok (run_of_ok (read_of_ok htext horder hoffset)), run_bind, run_act, hfound]
  rfl

theorem run_search_unready (h : b.database.slotFault = some x) :
    b.run (search s params) = (.error (storeFailure x), b) := by
  have hfound : ∀ limit f position, (found s ⟨none, limit, f, position⟩).on b = (.error x, b) := by
    intro limit f position
    rw [found]
    dsimp only
    rw [Action.on_bind, list, on_ask_slotFault h]
  rw [search, run_bind_of_ok (run_of_ok (read_of_ok htext horder hoffset)), run_bind, run_act, hfound]
  rfl

end Page

theorem run_listSlots_of_offset (h : offsetOf (params.word? "offset") = .error e) :
    b.run (listSlots s params) = (.error e, b) := by
  unfold listSlots
  rw [run_bind, run_of, h]

theorem run_listSlots_of_order (hoffset : offsetOf (params.word? "offset") = .ok n)
    (h : orderOf (params.word? "order") = .error e) : b.run (listSlots s params) = (.error e, b) := by
  unfold listSlots
  rw [run_bind_of_ok (run_of_ok hoffset), run_bind, run_of, h]

section Page
variable (hactive : params.word? "include_inactive" = none) (horder : orderOf (params.word? "order") = .ok o)
  (hoffset : offsetOf (params.word? "offset") = .ok n)
include hactive horder hoffset

theorem run_listSlots (hst : b.database = .ready st) :
    b.run (listSlots s params) = (.ok (slotsAnswer (fullPageSize s (params.word? "limit")) n
      (st.list (fullPageSize s (params.word? "limit")) (filterOf false o params) (.offset n))
      (st.count (filterOf false o params))), b) := by
  have hlist : ∀ limit f position, b.run (act (Board.list limit f position)) = (.ok (st.list limit f position), b) := by
    intro limit f position
    rw [run_act, on_list hst]
    rfl
  have hcount : ∀ f, b.run (act (Board.count f)) = (.ok (st.count f), b) := by
    intro f
    rw [run_act, on_count hst]
    rfl
  unfold listSlots
  rw [run_bind_of_ok (run_of_ok hoffset), run_bind_of_ok (run_of_ok horder), hactive]
  dsimp only [Option.any_none]
  rw [run_bind_of_ok (hlist ..), run_bind_of_ok (hcount _)]
  rfl

theorem run_listSlots_unready (h : b.database.slotFault = some x) :
    b.run (listSlots s params) = (.error (storeFailure x), b) := by
  have hlist : ∀ limit f position, b.run (act (Board.list limit f position)) = (.error (storeFailure x), b) := by
    intro limit f position
    rw [run_act, list, on_ask_slotFault h]
    rfl
  unfold listSlots
  rw [run_bind_of_ok (run_of_ok hoffset), run_bind_of_ok (run_of_ok horder), hactive]
  dsimp only
  rw [run_bind, hlist]

end Page

end Handlers

/-! ### Both listings -/

/-- One listing that is asked for twice: by a search without a text, and as administration. -/
structure AskedTwice (s : Settings) (searching listing : Request) : Prop where
  gets : searching.method = "GET" ∧ listing.method = "GET"
  search : routeOf? s searching = some .search
  slots : routeOf? s listing = some .allSlots
  same : ∀ name, listing.target.params.lookup name = searching.target.params.lookup name
  without : ∀ name ∈ ["q", "cursor", "include_inactive"], searching.target.params.lookup name = none

/-- There is an offset, and it is no integer of 64 bits without a sign. -/
def BadOffset (params : Params) : Prop :=
  ∃ word, params.word? "offset" = some word ∧ Numeral.read? Numeral.nat64 word = none

/-- There is an order, and it is none. -/
def BadOrder (params : Params) : Prop := ∃ word, params.word? "order" = some word ∧ Order.read? word = none

variable {s : Settings} {searching listing : Request} {v w : Gate.Visitor} {b b₁ b₂ : Board}

/-- The database lists the rows of a store. -/
def Lists (st : Store) (b : Board) : Prop :=
  ∃ t, b.database = .ready t ∧ (∀ limit f position, t.list limit f position = st.list limit f position) ∧
    ∀ f, t.count f = st.count f

/-- A listing and a count need the rows only, which letting a visitor in leaves alone. -/
theorem listed_after_entering {r : Request} {route : Route} {b' : Board} {st : Store}
    (h : b.run (entered s route (told s r)) = (.ok v, b')) (hst : b.database = .ready st) : Lists st b' := by
  have hrows {t : Store} (hslots : t.slots = st.slots) :
      (∀ limit f position, t.list limit f position = st.list limit f position) ∧ ∀ f, t.count f = st.count f := by
    refine ⟨fun limit f position => ?_, fun f => ?_⟩
    · rw [Store.list, Store.list, hslots]
    · rw [Store.count, Store.count, hslots]
  rcases (entered_of_ok h).noted with hsame | ⟨_, _, st', t, _, -, hst', ht, huse⟩
  · exact ⟨st, hsame.trans hst, hrows rfl⟩
  · obtain rfl : st' = st := Database.ready.inj (hst'.symm.trans hst)
    exact ⟨t, ht, hrows huse.slots⟩

theorem slotFault_after_entering {r : Request} {route : Route} {b' : Board} {e : StoreError}
    (h : b.run (entered s route (told s r)) = (.ok v, b')) (he : b.database.slotFault = some e) :
    b'.database.slotFault = some e := by
  rcases (entered_of_ok h).noted with hsame | ⟨_, _, st, _, _, -, hst, -, -⟩
  · rw [hsame, he]
  · rw [hst] at he
    cases he

section Handlers
variable {params : Params} {o : Order} {n : Nat} {st : Store}

/-- Where both list the same rows, the size of the page decides. -/
theorem alike_iff_of_ready (hslots : 1 ≤ s.limits.slots ∧ s.limits.slots ≤ 100) (htext : params.word? "q" = none)
    (hactive : params.word? "include_inactive" = none) (horder : orderOf (params.word? "order") = .ok o)
    (hposition : positionOf params = .ok (.offset n)) (hoffset : offsetOf (params.word? "offset") = .ok n)
    (h₁ : Lists st b₁) (h₂ : Lists st b₂) :
    Alike ((Api.search s params).answer.run b₁).1 ((listSlots s params).answer.run b₂).1 ↔
      (Minus (params.word? "limit") → s.limits.slots = 1) := by
  obtain ⟨t₁, ht₁, hpage₁, hcount₁⟩ := h₁
  obtain ⟨t₂, ht₂, hpage₂, hcount₂⟩ := h₂
  rw [run_answer, run_answer, run_search htext horder hposition ht₁, run_listSlots hactive horder hoffset ht₂]
  dsimp only
  rw [hpage₁, hpage₂, hcount₁, hcount₂]
  by_cases hminus : Minus (params.word? "limit")
  · obtain ⟨hleast, hmost⟩ := sizes_of_minus (s := s) hminus
    rw [hleast, hmost]
    refine ⟨fun halike _ => (limit_eq_of_alike halike).symm, fun hone => ?_⟩
    rw [hone hminus]
    exact alike_pages ..
  · rw [sizes_of_not_minus hminus hslots]
    exact ⟨fun _ h => absurd h hminus, fun _ => alike_pages ..⟩

/-- Each has its own code for an offset that is none. -/
theorem not_alike_of_offset (hoffset : offsetOf (params.word? "offset") = .error badOffsets.2)
    (hposition : positionOf params = .error badOffsets.1) :
    ¬Alike ((Api.search s params).answer.run b₁).1 ((listSlots s params).answer.run b₂).1 := by
  rw [run_answer, run_answer, run_listSlots_of_offset hoffset]
  intro halike
  rcases orderOf_cases (params.word? "order") with ⟨o, horder⟩ | ⟨horder, -⟩
  · rw [run_search_of_error (read_of_position horder hposition)] at halike
    cases code_eq_of_alike halike
  · rw [run_search_of_error (read_of_order horder)] at halike
    cases code_eq_of_alike halike

end Handlers

theorem AskedTwice.words (h : AskedTwice s searching listing) : searching.target.params.word? "q" = none ∧
    searching.target.params.word? "cursor" = none ∧ searching.target.params.word? "include_inactive" = none := by
  have hnone : ∀ name ∈ ["q", "cursor", "include_inactive"], searching.target.params.word? name = none := by
    intro name hname
    rw [Params.word?, h.without name hname]
    rfl
  exact ⟨hnone _ (by simp), hnone _ (by simp), hnone _ (by simp)⟩

/-- What is answered is what the two handlers answer, from the boards that letting the client in left. -/
theorem AskedTwice.served (h : AskedTwice s searching listing)
    (hsearch : b.run (entered s .search (told s searching)) = (.ok v, b₁))
    (hlist : b.run (entered s .allSlots (told s listing)) = (.ok w, b₂)) :
    b.serve s searching = (Api.search s searching.target.params).answer.run b₁ ∧
      b.serve s listing = (listSlots s searching.target.params).answer.run b₂ := by
  have hword : ∀ name, listing.target.params.word? name = searching.target.params.word? name := fun name => by
    rw [Params.word?, Params.word?, h.same]
  have hsame : listSlots s listing.target.params = listSlots s searching.target.params := by
    unfold listSlots filterOf
    simp only [hword]
  obtain ⟨hget, hget'⟩ := h.gets
  refine ⟨serve_handled h.search (not_head (Or.inl hget)) hsearch (handler?_search hget),
    serve_handled h.slots (not_head (Or.inl hget')) hlist ?_⟩
  have hmethod : (told s listing).method = "GET" := hget'
  unfold handler?
  rw [hmethod, ← hsame]
  rfl

/-- For a client that is let in to both, a search without a text and a listing of all slots answer alike just if the
offset can be read and the limit is no number with a minus, unless that limit does not come to bear: the order cannot be
read, or there are no tables, or there is room for one slot only. -/
theorem listings_agree_iff (hconf : s.Configured) (h : AskedTwice s searching listing)
    (hsearch : b.run (entered s .search (told s searching)) = (.ok v, b₁))
    (hlist : b.run (entered s .allSlots (told s listing)) = (.ok w, b₂)) :
    Alike (b.serve s searching).1 (b.serve s listing).1 ↔
      ¬BadOffset searching.target.params ∧ (Minus (searching.target.params.word? "limit") →
        BadOrder searching.target.params ∨ (∀ st, b.database ≠ .ready st) ∨ s.limits.slots = 1) := by
  have hslots := hconf.bounds .slots
  obtain ⟨hsearch', hlist'⟩ := h.served hsearch hlist
  obtain ⟨htext, hcursor, hactive⟩ := h.words
  rw [hsearch', hlist']
  rcases offset_cases hcursor with ⟨n, hoffset, hposition⟩ | ⟨hoffset, hposition, hbad⟩
  · have hgood : ¬BadOffset searching.target.params := by
      rintro ⟨word, hword, hread⟩
      rw [hword, offsetOf, hread] at hoffset
      cases hoffset
    rcases orderOf_cases (searching.target.params.word? "order") with ⟨o, horder⟩ | ⟨horder, hbad⟩
    · have hordered : ¬BadOrder searching.target.params := by
        rintro ⟨word, hword, hread⟩
        rw [hword, orderOf, hread] at horder
        cases horder
      rcases b.database.ready_or_slotFault with ⟨st, hst⟩ | ⟨e, he⟩
      · have hready : ¬∀ st, b.database ≠ .ready st := fun hunready => hunready st hst
        rw [alike_iff_of_ready hslots htext hactive horder hposition hoffset
          (listed_after_entering hsearch hst) (listed_after_entering hlist hst)]
        simp only [hgood, hordered, hready, not_false_eq_true, true_and, false_or]
      · rw [run_answer, run_answer, run_search_unready htext horder hposition (slotFault_after_entering hsearch he),
          run_listSlots_unready hactive horder hoffset (slotFault_after_entering hlist he)]
        refine ⟨fun _ => ⟨hgood, fun _ => Or.inr (Or.inl fun st hst => ?_)⟩, fun _ => alike_storeFailure e⟩
        rw [hst] at he
        cases he
    · rw [run_answer, run_answer, run_search_of_error (read_of_order horder), run_listSlots_of_order hoffset horder]
      exact ⟨fun _ => ⟨hgood, fun _ => Or.inl hbad⟩, fun _ => alike_failure ..⟩
  · exact ⟨fun halike => absurd halike (not_alike_of_offset hoffset hposition), fun hright => absurd hbad hright.1⟩

/-! ### Two listings from elsewhere -/

/-- The settings that leave everything as it is, but for authentication. -/
def freeSettings : Settings := { plainSettings with noAuth := true }

theorem freeSettings_configured : freeSettings.Configured :=
  ⟨fun name => [("KARING_NO_AUTH", "1")].lookup name, freeSettings, rfl, Or.inl rfl⟩

/-- A request for a listing, without a key. -/
def getListing (path query : String) : Request where
  method := "GET"
  target := ⟨path, some query⟩
  headers := []
  body := ByteArray.empty
  peer := .v4 (.ofOctets 203 0 113 9)

section
variable {query : String}

theorem askedTwice_getListing {params : Params} (hparams : (getListing "/search" query).target.params = params)
    (h : ∀ name ∈ ["q", "cursor", "include_inactive"], params.lookup name = none) :
    AskedTwice freeSettings (getListing "/search" query) (getListing "/admin/slots" query) where
  gets := ⟨rfl, rfl⟩
  search := rfl
  slots := rfl
  same := fun _ => rfl
  without := hparams ▸ h

theorem entered_search (b : Board) :
    b.run (entered freeSettings .search (told freeSettings (getListing "/search" query))) =
    (.ok ⟨"203.0.113.9", none⟩, b) := by
  rw [run_entered (by decide), run_admitted_of_free rfl]
  rfl

theorem entered_allSlots (b : Board) (hkey : Gate.queryKey? (getListing "/admin/slots" query).target = none) :
    b.run (entered freeSettings .allSlots (told freeSettings (getListing "/admin/slots" query))) =
      (.ok ⟨"203.0.113.9", none⟩, b) := by
  have habsent : Gate.presentedKey (told freeSettings (getListing "/admin/slots" query)).headers
      (told freeSettings (getListing "/admin/slots" query)).target = none := hkey
  rw [run_entered (by decide), run_admitted_of_free rfl]
  dsimp only
  rw [run_checkAdmin_of_none habsent]
  rfl

end

/-- The first slot of a page of one. -/
theorem listings_agree_iff_of_limit :
    Alike ((Board.fresh counting).serve freeSettings (getListing "/search" "limit=1")).1
      ((Board.fresh counting).serve freeSettings (getListing "/admin/slots" "limit=1")).1 := by
  have hparams : (getListing "/search" "limit=1").target.params = [("limit", "1")] := by decide +kernel
  have hlimit : Params.word? [("limit", "1")] "limit" = some "1" := by decide +kernel
  have hasked := askedTwice_getListing hparams (by decide)
  refine (listings_agree_iff freeSettings_configured hasked (entered_search _)
    (entered_allSlots _ (by decide +kernel))).mpr ?_
  rw [hparams, hlimit]
  refine ⟨?_, ?_⟩
  · rintro ⟨word, hword, -⟩
    cases hword
  · rintro ⟨word, n, hword, hminus, -⟩
    cases hword
    cases hminus

/-- An offset that is none has two codes. -/
theorem offset_has_two_codes :
    AskedTwice freeSettings (getListing "/search" "offset=x") (getListing "/admin/slots" "offset=x") ∧
    (∀ b : Board, ∃ v,
      b.run (entered freeSettings .search (told freeSettings (getListing "/search" "offset=x"))) = (.ok v, b)) ∧
    (∀ b : Board, ∃ w,
      b.run (entered freeSettings .allSlots (told freeSettings (getListing "/admin/slots" "offset=x"))) = (.ok w, b)) ∧
    ∀ b : Board, (b.serve freeSettings (getListing "/search" "offset=x")).1 =
        failure .query "Invalid offset" (some (.obj [("reason", .str "expected a non-negative integer")])) ∧
      (b.serve freeSettings (getListing "/admin/slots" "offset=x")).1 = failure .validation "Invalid offset" := by
  have hparams : (getListing "/search" "offset=x").target.params = [("offset", "x")] := by decide +kernel
  have hkey : Gate.queryKey? (getListing "/admin/slots" "offset=x").target = none := by decide +kernel
  have hasked := askedTwice_getListing hparams (by decide)
  refine ⟨hasked, fun b => ⟨_, entered_search b⟩, fun b => ⟨_, entered_allSlots b hkey⟩, fun b => ?_⟩
  obtain ⟨hsearch, hlist⟩ := hasked.served (entered_search b) (entered_allSlots b hkey)
  rw [hparams] at hsearch hlist
  have hcursor : Params.word? [("offset", "x")] "cursor" = none := rfl
  have hword : Params.word? [("offset", "x")] "offset" = some "x" := by decide +kernel
  rcases offset_cases hcursor with ⟨n, hoffset, -⟩ | ⟨hoffset, hposition, -⟩
  · rw [hword] at hoffset
    cases hoffset
  · rw [hsearch, hlist, run_answer, run_answer, run_search_of_error (read_of_position rfl hposition),
      run_listSlots_of_offset hoffset]
    exact ⟨rfl, rfl⟩

end Api

end Pasteboard
