import Pasteboard.Proofs.Api.Answers
import Pasteboard.Proofs.Api.Disguise
import Pasteboard.Proofs.Json.Texts
/-!
Searching by parameters in the target, in the body, or in both.

The gate takes both requests for a read and looks at the same client and key. The handlers look at parameters by their
names, so it does not matter where one stands, nor what the target says about a name that the body has.
-/

namespace Pasteboard

open Api Board
open Pasteboard.Http
open Pasteboard.Text

namespace Http
variable {headers headers' : List Header} {name : String}

theorem headerText?_filter (hname : name ≠ "content-type") :
    headerText? (headers.filter (·.name != "content-type")) name = headerText? headers name := by
  have hfind : (headers.filter (·.name != "content-type")).find? (·.name == name) = headers.find? (·.name == name) := by
    rw [List.find?_filter]
    refine List.find?_congr fun h _ => ?_
    by_cases hh : h.name = name
    · simp [hh, hname]
    · simp [hh]
  rw [headerText?, headerText?, hfind]

/-- What a line says does not depend on the content type. -/
theorem headerWord?_congr
    (h : headers'.filter (·.name != "content-type") = headers.filter (·.name != "content-type"))
    (hname : name ≠ "content-type") : headerWord? headers' name = headerWord? headers name := by
  rw [headerWord?, headerWord?, ← headerText?_filter hname, h, headerText?_filter hname]

end Http

theorem Net.resolveClient_congr {headers headers' : List Header} (peer : String) (trustProxy : Bool)
    (trusted : List String)
    (h : headers'.filter (·.name != "content-type") = headers.filter (·.name != "content-type")) :
    resolveClient peer headers' trustProxy trusted = resolveClient peer headers trustProxy trusted := by
  have hreal : headerWord? headers' "x-real-ip" = headerWord? headers "x-real-ip" := headerWord?_congr h (by decide)
  have hforwarded : headerWord? headers' "x-forwarded-for" = headerWord? headers "x-forwarded-for" :=
    headerWord?_congr h (by decide)
  rw [resolveClient, resolveClient, chain, chain, hreal, hforwarded]

/-- Without a parameter for it, a target presents no key. -/
theorem Gate.queryKey?_of_none {t : Target} (h : t.params.lookup "api_key" = none) : queryKey? t = none := by
  have hnone : t.pairs.filter (·.1 == "api_key") = [] := by
    rw [Target.params, Named.lookup_putAll, List.lookup_nil, Option.or_none, Named.lookup_eq_none] at h
    rw [List.filter_eq_nil_iff]
    intro p hp hname
    exact h (List.mem_map.mpr ⟨p, List.mem_reverse.mpr hp, beq_iff_eq.mp hname⟩)
  rw [queryKey?, hnone]

namespace Api

variable {s : Settings} {get post : Request} {members : List (String × String)} {params params' : Params}

/-- A search by the target, and one by the target and members of a body, with the same parameters otherwise. A name that
the body has may stand in the target too. -/
structure SameSearch (s : Settings) (get post : Request) (members : List (String × String)) : Prop where
  gets : get.method = "GET"
  posts : post.method = "POST"
  route : routeOf? s get = some .search
  path : post.target.path = get.target.path
  peer : post.peer = get.peer
  lines : post.headers.filter (·.name != "content-type") = get.headers.filter (·.name != "content-type")
  kind : startsWith (contentKind post) "application/json" = true
  small : post.body.size ≤ s.bodyLimit
  names : (members.map (·.1)).Nodup
  split : ∀ name, get.target.params.lookup name = (members.lookup name).or (post.target.params.lookup name)
  keyless : get.target.params.lookup "api_key" = none

namespace SameSearch

theorem routePost (h : SameSearch s get post members) : routeOf? s post = some .search := by
  rw [routeOf?, h.path]
  exact h.route

theorem keylessPost (h : SameSearch s get post members) : post.target.params.lookup "api_key" = none := by
  have hsplit := h.split "api_key"
  rw [h.keyless] at hsplit
  exact (Option.or_eq_none_iff.mp hsplit.symm).2

/-- The gate sees the same but for the method. -/
theorem callers (h : SameSearch s get post members) (htold : (told s post).target.path = "/search") :
    ∃ key ip, Gate.Caller.of s (told s get) = ⟨"GET", "/search", key, ip⟩ ∧
      Gate.Caller.of s (told s post) = ⟨"POST", "/search", key, ip⟩ := by
  have hpath : (told s get).target.path = "/search" := by
    rw [← htold]
    show BasePath.stripped _ get.target.path = BasePath.stripped _ post.target.path
    rw [h.path]
  have hkey : Gate.presentedKey (told s post).headers (told s post).target =
      Gate.presentedKey (told s get).headers (told s get).target := by
    have hget : Gate.queryKey? (told s get).target = none := Gate.queryKey?_of_none h.keyless
    have hpost : Gate.queryKey? (told s post).target = none := Gate.queryKey?_of_none h.keylessPost
    have hword : headerWord? (told s post).headers "x-api-key" = headerWord? (told s get).headers "x-api-key" :=
      headerWord?_congr h.lines (by decide)
    rw [Gate.presentedKey, Gate.presentedKey, hget, hpost, hword]
  have hclient := Net.resolveClient_congr (Net.peerText get.peer) s.trustProxy s.trustedProxies h.lines
  have hgets : (told s get).method = "GET" := h.gets
  have hposts : (told s post).method = "POST" := h.posts
  have hpeer : (told s post).peer = (told s get).peer := h.peer
  refine ⟨Gate.presentedKey (told s get).headers (told s get).target,
    Net.resolveClient (Net.peerText get.peer) get.headers s.trustProxy s.trustedProxies, ?_, ?_⟩
  · rw [Gate.Caller.of, hpath, hgets]
    rfl
  · rw [Gate.Caller.of, htold, hposts, hkey, hpeer]
    exact congrArg (Gate.Caller.mk _ _ _) hclient

/-- Both are let in, or turned away with the same answer. -/
theorem run_entered_eq (h : SameSearch s get post members) (htold : (told s post).target.path = "/search") (b : Board) :
    b.run (entered s .search (told s post)) = b.run (entered s .search (told s get)) := by
  obtain ⟨key, ip, hget, hpost⟩ := h.callers htold
  have hevaluate : Gate.evaluate s ⟨"POST", "/search", key, ip⟩ = Gate.evaluate s ⟨"GET", "/search", key, ip⟩ := rfl
  have hadmitted : b.run (admitted s (told s post)) = b.run (admitted s (told s get)) := by
    rw [admitted, admitted, hget, hpost, hevaluate]
  rw [run_entered (by decide), run_entered (by decide), hadmitted]
  rfl

theorem handlerPost (h : SameSearch s get post members) (visitor : Gate.Visitor) :
    handler? s .search (told s post) visitor = some (searchByBody s (told s post) post.target.params) := by
  have hmethod : (told s post).method = "POST" := h.posts
  unfold handler?
  rw [hmethod]
  rfl

end SameSearch

/-! ### Handlers -/

theorem search_congr (h : ∀ name, params'.lookup name = params.lookup name) : search s params' = search s params := by
  have hword : ∀ name, params'.word? name = params.word? name := fun name => by rw [Params.word?, Params.word?, h]
  unfold search SearchQuery.read positionOf filterOf
  simp only [hword]

theorem mergedParams_texts (query : Params) (members : List (String × String)) :
    mergedParams query (some (.obj (Json.texts members))) = Named.putAll query members := by
  have hmembers : (Json.texts members).filterMap (fun m => (paramText m.2).map fun t => (m.1, t)) = members := by
    rw [Json.texts, List.filterMap_map]
    exact (List.filterMap_congr fun m _ => rfl).trans List.filterMap_some
  exact congrArg (Named.putAll query) hmembers

theorem searchBody_of_read (h : SameSearch s get post members)
    (hread : Json.read? post.body = some (.obj (Json.texts members))) :
    searchBody s (told s post) = .ok (some (.obj (Json.texts members))) := by
  have hsmall : isOversized s (told s post) = false := decide_eq_false (Nat.not_lt.mpr h.small)
  have hkind : startsWith (contentKind (told s post)) "application/json" = true := h.kind
  have hbody : post.body.isEmpty = false := by
    by_contra hempty
    have hnil : post.body = ByteArray.empty := by
      rw [Bool.not_eq_false, ByteArray.isEmpty, beq_iff_eq, ByteArray.size_eq_zero_iff] at hempty
      exact hempty
    have hnone : Json.read? ByteArray.empty = none := by decide +kernel
    rw [hnil, hnone] at hread
    cases hread
  have hread' : Json.read? (told s post).body = some (.obj (Json.texts members)) := hread
  have hbody' : (told s post).body.isEmpty = false := hbody
  rw [searchBody, hsmall, hkind, hbody', hread']
  rfl

theorem run_searchByBody (h : SameSearch s get post members)
    (hread : Json.read? post.body = some (.obj (Json.texts members))) (b : Board) :
    b.run (searchByBody s (told s post) post.target.params) = b.run (search s get.target.params) := by
  have hlookup : ∀ name, (Named.putAll post.target.params members).lookup name = get.target.params.lookup name := by
    intro name
    rw [Named.lookup_putAll_of_nodup _ h.names, h.split]
  rw [searchByBody, run_bind_of_ok (run_of_ok (searchBody_of_read h hread)), mergedParams_texts,
    search_congr hlookup]

/-- A search by parameters in the target and in a JSON object in the body is answered as one by the same parameters in
the target alone, with the same data afterwards, if the gate takes it for a search. The names in an object on one line
are read as they are, but for a first one. -/
theorem search_by_target_or_body (h : SameSearch s get post members)
    (htold : ':' ∈ s.basePath.toList → (told s post).target.path = "/search") :
    (Json.read? post.body = some (.obj (Json.texts members)) → ∀ b : Board, b.serve s post = b.serve s get) ∧
    (Json.Ordinary members → post.body = (Json.render (.obj (Json.texts members))).toUTF8 →
      ∀ b : Board, b.serve s post = b.serve s get) := by
  have hpath : (told s post).target.path = "/search" := by
    by_cases hcolon : ':' ∈ s.basePath.toList
    · exact htold hcolon
    · exact told_path hcolon h.routePost
  have hread : Json.read? post.body = some (.obj (Json.texts members)) →
      ∀ b : Board, b.serve s post = b.serve s get := by
    intro hbody b
    have hget := not_head (Or.inl h.gets)
    have hpost := not_head (Or.inr h.posts)
    have hsame := h.run_entered_eq hpath b
    rcases hentered : b.run (entered s .search (told s get)) with ⟨e | visitor, b'⟩ <;> rw [hentered] at hsame
    · rw [serve_refused h.route hget hentered, serve_refused h.routePost hpost hsame]
    · rw [serve_handled h.route hget hentered (handler?_search h.gets),
        serve_handled h.routePost hpost hsame (h.handlerPost visitor), run_answer, run_answer, run_searchByBody h hbody]
  exact ⟨hread, fun hfirst hbody => hread (by rw [hbody]; exact Json.read?_render h.names hfirst)⟩

/-- A reader's search by the target. -/
def searchGet (path : String) (query : Option String) : Request where
  method := "GET"
  target := ⟨path, query⟩
  headers := [Header.of "x-api-key" "reader"]
  body := ByteArray.empty
  peer := .v4 (.ofOctets 203 0 113 9)

/-- A reader's search by the target and a body. -/
def searchPost (path : String) (query : Option String) (members : List (String × String)) : Request where
  method := "POST"
  target := ⟨path, query⟩
  headers := [Header.of "x-api-key" "reader", Header.of "content-type" "application/json"]
  body := (Json.render (.obj (Json.texts members))).toUTF8
  peer := .v4 (.ofOctets 203 0 113 9)

theorem sameSearch_post {path : String} {query query' : Option String}
    (hroute : routeOf? s (searchGet path query) = some .search)
    (hsmall : (searchPost path query' members).body.size ≤ 1048576) (hnames : (members.map (·.1)).Nodup)
    (hsplit : ∀ name, (searchGet path query).target.params.lookup name =
      (members.lookup name).or ((searchPost path query' members).target.params.lookup name))
    (hkeyless : (searchGet path query).target.params.lookup "api_key" = none) :
    SameSearch s (searchGet path query) (searchPost path query' members) members where
  gets := rfl
  posts := rfl
  route := hroute
  path := rfl
  peer := rfl
  lines := by
    show ([Header.of "x-api-key" "reader", Header.of "content-type" "application/json"].filter
      (·.name != "content-type")) = [Header.of "x-api-key" "reader"].filter (·.name != "content-type")
    decide +kernel
  kind := by
    show startsWith (Text.lower ((headerText?
      [Header.of "x-api-key" "reader", Header.of "content-type" "application/json"]
      "content-type").getD "")) "application/json" = true
    decide +kernel
  small := by
    rw [Settings.bodyLimit]
    omega
  names := hnames
  split := hsplit
  keyless := hkeyless

/-- The limit stands in the body and, with another value, in the target. -/
theorem search_by_target_or_body_of_limit :
    readerBoard.serve plainSettings (searchPost "/search" (some "limit=5") [("limit", "1"), ("type", "text")]) =
        readerBoard.serve plainSettings (searchGet "/search" (some "type=text&limit=1")) ∧
      (readerBoard.serve plainSettings (searchGet "/search" (some "type=text&limit=1"))).1.status = 200 := by
  have hget : (searchGet "/search" (some "type=text&limit=1")).target.params = [("type", "text"), ("limit", "1")] := by
    decide +kernel
  have hpost : (searchPost "/search" (some "limit=5") [("limit", "1"), ("type", "text")]).target.params =
      [("limit", "5")] := by decide +kernel
  have hsame : SameSearch plainSettings (searchGet "/search" (some "type=text&limit=1"))
      (searchPost "/search" (some "limit=5") [("limit", "1"), ("type", "text")])
      [("limit", "1"), ("type", "text")] := by
    refine sameSearch_post rfl (by decide +kernel) (by decide) (fun name => ?_) (by rw [hget]; rfl)
    rw [hget, hpost]
    by_cases htype : name = "type"
    · subst htype
      rfl
    · by_cases hlimit : name = "limit"
      · subst hlimit
        rfl
      · simp [Named.lookup_cons_of_ne htype, Named.lookup_cons_of_ne hlimit]
  have hfirst : Json.Ordinary [("limit", "1"), ("type", "text")] := by simp [Json.Ordinary, Json.standInName]
  refine ⟨(search_by_target_or_body hsame fun hcolon => absurd hcolon (by decide)).2 hfirst rfl readerBoard, ?_⟩
  decide +kernel

/-- Where a place in the base path is part of a segment, a reader may search by the target and not by a body; and no
search is made by a body whose first name makes an object stand for another value. -/
theorem searches_disagree :
    (SameSearch placedSettings (searchGet "/sX/search" none) (searchPost "/sX/search" none []) [] ∧
      (readerBoard.serve placedSettings (searchGet "/sX/search" none)).1.status = 200 ∧
      (readerBoard.serve placedSettings (searchPost "/sX/search" none [])).1.status = 403) ∧
    SameSearch plainSettings (searchGet "/search" (some "%24serde_json%3A%3Aprivate%3A%3ARawValue=x"))
        (searchPost "/search" none [(Json.standInName, "x")]) [(Json.standInName, "x")] ∧
      (readerBoard.serve plainSettings
        (searchGet "/search" (some "%24serde_json%3A%3Aprivate%3A%3ARawValue=x"))).1.status = 200 ∧
      (readerBoard.serve plainSettings (searchPost "/search" none [(Json.standInName, "x")])).1.status = 400 := by
  have hget : (searchGet "/search" (some "%24serde_json%3A%3Aprivate%3A%3ARawValue=x")).target.params =
      [(Json.standInName, "x")] := by decide +kernel
  have hpost : (searchPost "/search" none [(Json.standInName, "x")]).target.params = [] := by decide +kernel
  refine ⟨⟨sameSearch_post (by decide +kernel) (by decide +kernel) (by decide) (fun _ => rfl) (by decide +kernel),
    ?_, ?_⟩, ?_, ?_, ?_⟩
  · decide +kernel
  · decide +kernel
  · exact sameSearch_post rfl (by decide +kernel) (by decide) (fun name => by rw [hget, hpost]; simp)
      (by rw [hget]; rfl)
  · decide +kernel
  · decide +kernel

end Api

end Pasteboard
