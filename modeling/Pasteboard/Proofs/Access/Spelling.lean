import Pasteboard.Proofs.Access.Blocks
import Pasteboard.Proofs.Access.Resolution
import Pasteboard.Proofs.Access.Verdict
import Pasteboard.Proofs.Net.Mapped
/-!
Two spellings of one address.

A peer may come with an IPv4 address or with the IPv6 address that maps it: the gate looks at the IPv4 address. What a
header line says is taken as it is written. In mapped form it is an address that no rule and no trusted block matches
and that is not of this machine, so the gate goes on to the keys where it would have decided by the address.
-/

namespace Pasteboard
open Net
open Pasteboard.Http Text

/-! ### Where an address is written -/

/-- A place for the text of an address in the header lines of a request: a part of a line of hops, or all of a line that
names the client, between blanks. -/
structure Place where
  front : List Header
  name : String
  before : Option (List UInt8)
  lead : List UInt8
  trail : List UInt8
  after : Option (List UInt8)
  back : List Header
  named : name = "x-forwarded-for" ∨ name = "x-real-ip" ∧ before = none ∧ after = none
  lead_blank : ∀ byte ∈ lead, byte = 9 ∨ byte = 32
  trail_blank : ∀ byte ∈ trail, byte = 9 ∨ byte = 32

namespace Place

/-- The value of the line, with commas to the parts before and after the address. -/
def value (p : Place) (c : String) : List UInt8 :=
  (p.before.map (· ++ [44])).getD [] ++ (p.lead ++ asciiBytes c ++ p.trail) ++ (p.after.map (44 :: ·)).getD []

/-- The header lines with an address at the place. -/
def headers (p : Place) (c : String) : List Header := p.front ++ ⟨p.name, ⟨(p.value c).toArray⟩⟩ :: p.back

variable {p : Place} {c m u peer name : String} {trusted : List String}

/-- Another line does not depend on what is written at the place. -/
theorem headerWord?_of_ne (h : p.name ≠ name) :
    headerWord? (p.headers c) name = headerWord? (p.front ++ p.back) name := by
  have hfind : (p.headers c).find? (·.name == name) = (p.front ++ p.back).find? (·.name == name) := by
    rw [headers, List.find?_append, List.find?_append, List.find?_cons_of_neg (by simpa using h)]
  rw [headerWord?, headerText?, hfind, headerWord?, headerText?]

section Line
variable {line : List UInt8} {part : Option (List UInt8)} (hline : line.all isReadable = true)
  (hpart : ∀ bytes ∈ part, bytes.all isReadable = true)
include hline hpart

theorem hops_before : hops ((part.map (· ++ [44])).getD [] ++ line) = (part.map hops).getD [] ++ hops line := by
  cases part with
  | none => rfl
  | some bytes =>
    show hops ((bytes ++ [44]) ++ line) = hops bytes ++ hops line
    rw [List.append_assoc, List.singleton_append, hops_append (hpart bytes rfl) hline]

theorem hops_after : (line ++ (part.map (44 :: ·)).getD []).all isReadable = true ∧
    hops (line ++ (part.map (44 :: ·)).getD []) = hops line ++ (part.map hops).getD [] := by
  cases part with
  | none =>
    show (line ++ []).all isReadable = true ∧ hops (line ++ []) = hops line ++ []
    rw [List.append_nil, List.append_nil]
    exact ⟨hline, rfl⟩
  | some bytes =>
    refine ⟨?_, hops_append hline (hpart bytes rfl)⟩
    show (line ++ 44 :: bytes).all isReadable = true
    rw [List.all_append, List.all_cons, hline, hpart bytes rfl]
    rfl

end Line

/-- A hop is listed at its place, unless a byte of the line is unreadable. -/
theorem hops_value (p : Place) : (∃ pre post, ∀ c, IsHop c → hops (p.value c) = pre ++ c :: post) ∨
    ∀ c, IsHop c → hops (p.value c) = [] := by
  by_cases hread : (∀ bytes ∈ p.before, bytes.all isReadable = true) ∧ ∀ bytes ∈ p.after, bytes.all isReadable = true
  · refine .inl ⟨(p.before.map hops).getD [], (p.after.map hops).getD [], fun c hc => ?_⟩
    obtain ⟨hmid, hhops⟩ := hops_padded hc p.lead p.trail p.lead_blank p.trail_blank
    obtain ⟨hend, hrest⟩ := hops_after hmid hread.2
    rw [value, List.append_assoc, hops_before hend hread.1, hrest, hhops, List.singleton_append]
  · refine .inr fun c hc => if_neg fun hall => hread ?_
    rw [value, List.all_append, List.all_append, Bool.and_eq_true, Bool.and_eq_true] at hall
    obtain ⟨⟨hbefore, -⟩, hafter⟩ := hall
    refine ⟨fun bytes hbytes => ?_, fun bytes hbytes => ?_⟩
    · rw [Option.mem_def.mp hbytes, Option.map_some, Option.getD_some, List.all_append, Bool.and_eq_true] at hbefore
      exact hbefore.1
    · rw [Option.mem_def.mp hbytes, Option.map_some, Option.getD_some, List.all_cons, Bool.and_eq_true] at hafter
      exact hafter.2

/-- The first line of a name is one before the place, or the one with the place. -/
theorem find?_headers (p : Place) (c : String) : (p.headers c).find? (·.name == p.name) =
    (p.front.find? (·.name == p.name)).or (some ⟨p.name, ⟨(p.value c).toArray⟩⟩) := by
  rw [headers, List.find?_append, List.find?_cons_of_pos (by simp)]

/-- A line that names the client, with nothing but blanks around the name, names it. -/
theorem readable?_value (hc : IsHop c) (hbefore : p.before = none) (hafter : p.after = none) :
    (readable? ⟨(p.value c).toArray⟩).bind trimmed? = some c := by
  obtain ⟨hread, -⟩ := hops_padded hc p.lead p.trail p.lead_blank p.trail_blank
  have hvalue : p.value c = p.lead ++ asciiBytes c ++ p.trail := by
    rw [value, hbefore, hafter]
    exact List.append_nil _
  have htrim : trim (asciiText (p.lead ++ asciiBytes c ++ p.trail)) = c := by
    rw [asciiText, List.map_append, List.map_append, hc.chars_asciiBytes, trim, String.toList_ofList,
      trimBlanks_padded (isBlank_blanks p.lead_blank) (isBlank_blanks p.trail_blank), hc.trimmed.trimBlanks_eq,
      String.ofList_toList]
  rw [readable?, toList_mk, hvalue, if_pos hread, Option.bind_some, trimmed?, ← asciiText, htrim,
    if_neg (by simpa using hc.ne)]

/-! ### Which client is named -/

/-- Of two texts at a place, of which the first is never trusted, both name the same client, or the first names itself,
and the second does, too, unless it is trusted. -/
theorem clientOf_cases {pre post : List String} (hm : matchesAny trusted m = false) :
    clientOf trusted (pre ++ m :: post) peer = clientOf trusted (pre ++ u :: post) peer ∨
      clientOf trusted (pre ++ m :: post) peer = m ∧
        (clientOf trusted (pre ++ u :: post) peer = u ∨ matchesAny trusted u = true) := by
  by_cases hnone : trusted = []
  · cases pre with
    | nil => exact .inr ⟨clientOf_first (.inl hnone), .inl (clientOf_first (.inl hnone))⟩
    | cons first pre =>
      refine .inl ?_
      rw [List.cons_append, List.cons_append, clientOf_first (.inl hnone), clientOf_first (.inl hnone)]
  · by_cases hpost : ∃ hop ∈ post, matchesAny trusted hop = false
    · refine .inl ?_
      have happend (c : String) : clientOf trusted (pre ++ c :: post) peer = clientOf trusted post peer := by
        rw [List.append_cons, clientOf_append hnone hpost]
      rw [happend, happend]
    · have hall : ∀ other ∈ post, matchesAny trusted other = true := by simpa using hpost
      refine .inr ⟨clientOf_last hnone hm hall, ?_⟩
      cases hu : matchesAny trusted u with
      | true => exact .inr rfl
      | false => exact .inl (clientOf_last hnone hu hall)

/-- The hops before and after the place, and the peer, if nothing else goes before the line with the place. -/
theorem chain_cases (hname : p.name = "x-forwarded-for") (peer : String) :
    (∃ rest, ∀ c, IsHop c → chain (p.headers c) peer = rest) ∨
      ∃ pre post, ∀ c, IsHop c → chain (p.headers c) peer = pre ++ c :: post := by
  have hfind (c : String) := p.find?_headers c
  rw [hname] at hfind
  simp only [chain_eq, forwarded_head?, hfind]
  cases p.front.find? (·.name == "x-forwarded-for") with
  | some line => exact .inl ⟨hops line.value.toList ++ [peer], fun _ _ => rfl⟩
  | none =>
    simp only [Option.none_or, Option.map_some, Option.getD_some, toList_mk]
    rcases p.hops_value with ⟨pre, post, hhops⟩ | hhops
    · exact .inr ⟨pre, post ++ [peer], fun c hc => by rw [hhops c hc, List.append_assoc, List.cons_append]⟩
    · exact .inl ⟨[] ++ [peer], fun c hc => by rw [hhops c hc]⟩

/-- What a line that names the client has to say, if no other goes before it. -/
theorem headerWord?_cases (hname : p.name = "x-real-ip") (hbefore : p.before = none) (hafter : p.after = none) :
    (∃ word, ∀ c, IsHop c → headerWord? (p.headers c) "x-real-ip" = word) ∨
      ∀ c, IsHop c → headerWord? (p.headers c) "x-real-ip" = some c := by
  have hfind (c : String) := p.find?_headers c
  rw [hname] at hfind
  simp only [headerWord?, headerText?, hfind]
  cases p.front.find? (·.name == "x-real-ip") with
  | some line => exact .inl ⟨(readable? line.value).bind trimmed?, fun _ _ => rfl⟩
  | none => exact .inr fun c hc => readable?_value hc hbefore hafter

theorem resolveClient_cases (p : Place) (peer : String) (hm : IsHop m) (hu : IsHop u)
    (hnever : matchesAny trusted m = false) :
    resolveClient peer (p.headers m) true trusted = resolveClient peer (p.headers u) true trusted ∨
      resolveClient peer (p.headers m) true trusted = m ∧
        (resolveClient peer (p.headers u) true trusted = u ∨ matchesAny trusted u = true) := by
  rcases p.named with hname | ⟨hname, hbefore, hafter⟩
  · have hword (c : String) : headerWord? (p.headers c) "x-real-ip" = headerWord? (p.front ++ p.back) "x-real-ip" :=
      headerWord?_of_ne (by rw [hname]; decide)
    simp only [resolveClient, if_true, hword]
    cases headerWord? (p.front ++ p.back) "x-real-ip" with
    | some word => exact .inl rfl
    | none =>
      rcases chain_cases hname peer with ⟨rest, hchain⟩ | ⟨pre, post, hchain⟩ <;> rw [hchain m hm, hchain u hu]
      · exact .inl rfl
      · exact clientOf_cases hnever
  · have hchain (c : String) : chain (p.headers c) peer = chain (p.front ++ p.back) peer := by
      rw [chain, headerWord?_of_ne (by rw [hname]; decide), chain]
    simp only [resolveClient, if_true, hchain]
    rcases headerWord?_cases hname hbefore hafter with ⟨word, hword⟩ | hword <;> rw [hword m hm, hword u hu]
    · exact .inl rfl
    · exact .inr ⟨rfl, .inl rfl⟩

end Place

/-! ### The decision -/

namespace Gate
variable {s : Settings} {st : Store} {c c' : Caller} {a : Ipv4}

/-- The kind of a decision: to let pass, or a denial, whatever the address that it names. -/
def Decision.kind : Decision → Option Denial
  | .pass _ => none
  | .deny (.address _) => some (.address "")
  | .deny denial => some denial

/-- Callers that differ in their address only. -/
structure SameButAddress (c c' : Caller) : Prop where
  method : c'.method = c.method
  path : c'.path = c.path
  key : c'.key = c.key

theorem SameButAddress.eq (h : SameButAddress c c') (hip : c'.clientIp = c.clientIp) : c' = c := by
  obtain ⟨_, _, _, _⟩ := c
  obtain ⟨_, _, _, _⟩ := c'
  obtain ⟨rfl, rfl, rfl⟩ := h
  cases hip
  rfl

/-- The keys decide alike on callers that differ in their address. -/
theorem byKeys_kind (h : SameButAddress c c') : (byKeys st c').kind = (byKeys st c).kind := by
  unfold byKeys
  rw [h.key, h.method, h.path]
  split
  · rfl
  cases c.key with
  | none => rfl
  | some secret =>
    dsimp only
    cases st.findKey secret with
    | none => rfl
    | some key =>
      dsimp only
      split <;> rfl

/-- The keys never deny an address. -/
theorem byKeys_kind_ne : (byKeys st c).kind ≠ some (.address "") := by
  unfold byKeys
  split
  · exact nofun
  cases c.key with
  | none => exact nofun
  | some secret =>
    dsimp only
    cases st.findKey secret with
    | none => exact nofun
    | some key =>
      dsimp only
      split <;> exact nofun

/-- An address in mapped form decides nothing: only where everyone passes the keys are not asked. -/
theorem verdict_mapped (hip : c.clientIp = a.mapped.text) (hnormal : st.Normal) (hauth : s.noAuth = false) :
    verdict s st c = byKeys st c := by
  have hexempt : exempt s c = false := by rw [exempt, hauth, hip, isLoopback_mapped, Bool.and_false, Bool.or_false]
  rw [verdict, byAddress, hexempt, hip, matchesAny_mapped (hnormal.enabled _), matchesAny_mapped (hnormal.enabled _)]
  rfl

theorem Decision.kind_eq_none {d : Decision} : d.kind = none ↔ ∃ v, d = .pass v := by
  cases d with
  | pass v => exact iff_of_true rfl ⟨v, rfl⟩
  | deny denial => exact iff_of_false (by cases denial <;> exact nofun) nofun

theorem byAddress_deny {denial : Denial} (h : byAddress s st c = some (.deny denial)) :
    denial = .address c.clientIp := by
  unfold byAddress at h
  split_ifs at h
  · cases h
  · cases h
    rfl
  · cases h

/-- Of two callers that differ in their address only, one has an address in mapped form. Both get the same kind of
decision if and only if the address of the other decides nothing, or lets pass where the keys do. -/
theorem verdict_kind_iff (h : SameButAddress c c') (hip : c'.clientIp = a.mapped.text) (hnormal : st.Normal)
    (hauth : s.noAuth = false) : (verdict s st c').kind = (verdict s st c).kind ↔
      byAddress s st c = none ∨ (∃ v, byAddress s st c = some (.pass v)) ∧ ∃ v, byKeys st c = .pass v := by
  rw [verdict_mapped hip hnormal hauth, byKeys_kind h, verdict]
  cases hdecided : byAddress s st c with
  | none => exact iff_of_true rfl (.inl rfl)
  | some d => cases d with
    | pass v =>
      rw [Option.getD_some, Decision.kind, Decision.kind_eq_none]
      simp
    | deny denial =>
      obtain rfl := byAddress_deny hdecided
      exact iff_of_false byKeys_kind_ne (by simp)

end Gate

/-! ### Requests -/

namespace Place

/-- The request with an address at the place. -/
def request (p : Place) (r : Request) (c : String) : Request := { r with headers := p.headers c }

/-- What is written at the place changes nothing for the gate but the address of the client. -/
theorem sameButAddress (p : Place) (s : Settings) (r : Request) (c m : String) :
    Gate.SameButAddress (.of s (p.request r c)) (.of s (p.request r m)) where
  method := rfl
  path := rfl
  key := by
    have hne : p.name ≠ "x-api-key" := by rcases p.named with h | ⟨h, -⟩ <;> rw [h] <;> decide
    show Gate.presentedKey (p.headers m) r.target = Gate.presentedKey (p.headers c) r.target
    rw [Gate.presentedKey, headerWord?_of_ne hne, Gate.presentedKey, headerWord?_of_ne hne]

end Place

theorem Net.Ipv4.mapped_isHop (a : Ipv4) : IsHop a.mapped.text where
  ne h := by
    have hlist := congrArg String.toList h
    rw [a.mapped_toList] at hlist
    simp at hlist
  visible ch hch := by
    rcases mem_mapped hch with rfl | rfl | hch
    · decide
    · decide
    · exact a.text_isHop.visible ch hch

open Gate in
/-- Let proxies be trusted, and let the trusted blocks and the data be what was read and what operations lead to. Of a
request that has an IPv4 address at a place of its header lines, once as dotted text and once in mapped form, both are
decided, and both decisions are of the same kind if and only if the same client is found, or there is no authentication,
or the address of the first decides nothing, or it lets pass where the keys let pass, too. Where the clients differ, the
second is the address in mapped form, and the first is the dotted address, or an entry before it if it is a trusted
proxy. The peer is the same client in both forms. -/
theorem same_kind_iff {s : Settings} {b : Board} {st : Store} {lookup : String → Option String} {dotted mapped : Caller}
    (hb : b.Reachable) (hs : b.database = .ready st) (htrust : s.trustProxy = true)
    (hproxies : Settings.proxiesFrom lookup = .ok s.trustedProxies) (p : Place) (r : Request) (a : Ipv4)
    (hdotted : dotted = .of s (p.request r a.text)) (hmapped : mapped = .of s (p.request r a.mapped.text)) :
    (∃ d d', ((evaluate s dotted).on b).1 = .ok d ∧ ((evaluate s mapped).on b).1 = .ok d' ∧
      (d'.kind = d.kind ↔ mapped.clientIp = dotted.clientIp ∨ s.noAuth = true ∨ byAddress s st dotted = none ∨
        (∃ v, byAddress s st dotted = some (.pass v)) ∧ ∃ v, byKeys st dotted = .pass v)) ∧
    (mapped.clientIp ≠ dotted.clientIp → mapped.clientIp = a.mapped.text ∧
      (dotted.clientIp = a.text ∨ matchesAny s.trustedProxies a.text = true)) ∧
    Caller.of s { r with peer := .v6 a.mapped } = Caller.of s { r with peer := .v4 a } := by
  subst hdotted hmapped
  have hnormal : st.Normal := Board.store_eq hs ▸ hb.normal
  have hcases := p.resolveClient_cases (peerText r.peer) a.mapped_isHop a.text_isHop
    (matchesAny_mapped (Settings.proxiesFrom_normal hproxies) a)
  have hclient (c : String) : (Caller.of s (p.request r c)).clientIp =
      resolveClient (peerText r.peer) (p.headers c) true s.trustedProxies := by
    rw [← htrust]
    rfl
  rw [← hclient, ← hclient] at hcases
  have hsame := p.sameButAddress s r a.text a.mapped.text
  generalize Caller.of s (p.request r a.text) = dotted, Caller.of s (p.request r a.mapped.text) = mapped
    at hcases hsame ⊢
  refine ⟨⟨_, _, evaluate_eq hs, evaluate_eq hs, ?_⟩, hcases.resolve_left, ?_⟩
  · by_cases heq : mapped.clientIp = dotted.clientIp
    · rw [hsame.eq heq]
      exact iff_of_true rfl (.inl rfl)
    · cases hauth : s.noAuth with
      | true =>
        have hpass (c : Caller) : (verdict s st c).kind = none := by
          rw [verdict, byAddress, exempt, hauth]
          rfl
        exact iff_of_true ((hpass _).trans (hpass _).symm) (.inr (.inl rfl))
      | false =>
        rw [verdict_kind_iff hsame (hcases.resolve_left heq).1 hnormal hauth]
        simp [heq]
  · rw [Caller.of, Caller.of, peerText, peerText, a.canonical_mapped]

/-- Settings with trust in proxies, but with no blocks of them. -/
def trustingSettings : Settings := { plainSettings with trustProxy := true }

/-- A board with a rule that denies a block. -/
def denyingBoard : Board := (AccessCall.addRule .deny "10.0.0.0/8").on (Board.fresh Board.counting)

/-- A read whose header lines are those of a place. -/
def plainRead : Request where
  method := "GET"
  target := ⟨"/", none⟩
  headers := []
  body := ByteArray.empty
  peer := .v4 (.ofOctets 192 0 2 1)

/-- A line that names the client. -/
def realIpPlace : Place where
  front := []
  name := "x-real-ip"
  before := none
  lead := []
  trail := []
  after := none
  back := []
  named := .inr ⟨rfl, rfl, rfl⟩
  lead_blank := nofun
  trail_blank := nofun

theorem denyingBoard_ready : denyingBoard.database = .ready {
    deny := [⟨1, "10.0.0.0/8", true, 1000⟩], index := some { entries := [], faults := 0 } } := rfl

theorem denyingBoard_reachable : denyingBoard.Reachable := .access (Board.fresh_reachable _) _

/-- A client outside the denied block passes in both forms. -/
theorem same_kind_iff_outside : ∃ d d', ((Gate.evaluate trustingSettings
      (.of trustingSettings (realIpPlace.request plainRead (Ipv4.ofOctets 192 0 2 55).text))).on denyingBoard).1 =
      .ok d ∧
    ((Gate.evaluate trustingSettings (.of trustingSettings
      (realIpPlace.request plainRead (Ipv4.ofOctets 192 0 2 55).mapped.text))).on denyingBoard).1 =
      .ok d' ∧ d'.kind = d.kind := by
  have hproxies : Settings.proxiesFrom (fun _ => none) = .ok trustingSettings.trustedProxies := rfl
  obtain ⟨⟨d, d', hd, hd', hkind⟩, -⟩ := same_kind_iff denyingBoard_reachable denyingBoard_ready rfl hproxies
    realIpPlace plainRead (.ofOctets 192 0 2 55) rfl rfl
  exact ⟨d, d', hd, hd', hkind.mpr (.inr (.inr (.inl (by decide +kernel))))⟩

/-- A client inside the denied block is denied, but passes in mapped form. The peer is denied in both forms. -/
theorem mapped_address_is_not_denied :
    (Ipv4.ofOctets 10 0 0 5).text = "10.0.0.5" ∧ (Ipv4.ofOctets 10 0 0 5).mapped.text = "::ffff:10.0.0.5" ∧
    ((Gate.evaluate trustingSettings (.of trustingSettings (realIpPlace.request plainRead "10.0.0.5"))).on
      denyingBoard).1 = .ok (.deny (.address "10.0.0.5")) ∧
    ((Gate.evaluate trustingSettings (.of trustingSettings (realIpPlace.request plainRead "::ffff:10.0.0.5"))).on
      denyingBoard).1 = .ok (.pass ⟨"::ffff:10.0.0.5", none⟩) ∧
    ∀ peer ∈ [.v4 (.ofOctets 10 0 0 5), .v6 (Ipv4.ofOctets 10 0 0 5).mapped],
      ((Gate.evaluate trustingSettings (.of trustingSettings { plainRead with peer })).on denyingBoard).1 =
        .ok (.deny (.address "10.0.0.5")) := by
  refine ⟨by decide +kernel, by decide +kernel, ?_, ?_, fun peer hpeer => ?_⟩
  · rw [Gate.evaluate_eq denyingBoard_ready]
    exact congrArg _ (by decide +kernel)
  · rw [Gate.evaluate_eq denyingBoard_ready]
    exact congrArg _ (by decide +kernel)
  · rw [Gate.evaluate_eq denyingBoard_ready]
    rcases List.mem_pair.mp hpeer with rfl | rfl <;> exact congrArg _ (by decide +kernel)

end Pasteboard
