import Pasteboard.Proofs.Api.Disguise
import Pasteboard.Proofs.Net.Address
/-!
The client that a trusted proxy reports.

A proxy adds the client that it saw to the header lines that the client sent. The service reads the first line only, and
none of it if a byte of it is unreadable. So the report counts if it stands on the first line and the line is readable;
otherwise the service goes by what the client itself wrote, or takes the proxy for the client.
-/

namespace Pasteboard.Net

open Pasteboard.Http
open Text

/-! ### Hops -/

/-- What can stand in a chain: visible ASCII characters and no comma. -/
structure IsHop (c : String) : Prop where
  ne : c ≠ ""
  visible : ∀ ch ∈ c.toList, 33 ≤ ch.toNat ∧ ch.toNat < 127 ∧ ch ≠ ','

/-- The bytes of an ASCII text. -/
def asciiBytes (s : String) : List UInt8 := s.toList.map fun ch => UInt8.ofNat ch.toNat

/-- The text of ASCII bytes. -/
def asciiText (bytes : List UInt8) : String := String.ofList (bytes.map fun b => Char.ofNat b.toNat)

/-- The hops that a line lists: none if a byte is unreadable. -/
def hops (line : List UInt8) : List String :=
  if line.all isReadable then commaParts (trim (asciiText line)) else []

/-- The last hop of a line outside the trusted blocks. -/
def lastOutside (trusted : List String) (line : List UInt8) : Option String :=
  (hops line).reverse.find? fun hop => !matchesAny trusted hop

/-- The values of the lines that list hops. -/
def forwarded (headers : List Header) : List (List UInt8) :=
  (headers.filter (·.name == "x-forwarded-for")).map (·.value.toList)

variable {c : String} {line : List UInt8} {headers : List Header} {trusted : List String} {peer : String}

namespace IsHop

theorem blank (h : IsHop c) : ∀ ch ∈ c.toList, isBlank ch = false := fun ch hch => by
  obtain ⟨hlow, hhigh, -⟩ := h.visible ch hch
  rw [← Bool.not_eq_true]
  intro hblank
  simp [isBlank] at hblank
  omega

theorem readable (h : IsHop c) : (asciiBytes c).all isReadable = true := by
  rw [List.all_eq_true]
  intro byte hbyte
  obtain ⟨ch, hch, rfl⟩ := List.mem_map.mp hbyte
  obtain ⟨hlow, hhigh, -⟩ := h.visible ch hch
  have hnat : (UInt8.ofNat ch.toNat).toNat = ch.toNat := by simp; omega
  simp [isReadable, UInt8.le_iff_toNat_le, UInt8.lt_iff_toNat_lt, hnat]
  omega

theorem chars_asciiBytes (h : IsHop c) : (asciiBytes c).map (fun b => Char.ofNat b.toNat) = c.toList := by
  rw [asciiBytes, List.map_map]
  refine (List.map_congr_left fun ch hch => ?_).trans (List.map_id _)
  obtain ⟨-, hhigh, -⟩ := h.visible ch hch
  have hnat : (UInt8.ofNat ch.toNat).toNat = ch.toNat := by simp; omega
  simp [hnat]

theorem trimmed (h : IsHop c) : Trimmed c.toList :=
  ⟨fun ch hch => h.blank ch (List.mem_of_head? hch), fun ch hch => h.blank ch (List.mem_of_getLast? hch)⟩

/-- A hop between blanks is the only part of a text. -/
theorem commaParts_eq (h : IsHop c) {front back : List Char} (hfront : ∀ ch ∈ front, isBlank ch = true)
    (hback : ∀ ch ∈ back, isBlank ch = true) : commaParts (String.ofList (front ++ c.toList ++ back)) = [c] := by
  have hcomma : ',' ∉ c.toList := fun hmem => (h.visible ',' hmem).2.2 rfl
  rw [commaParts_padded hfront hback, commaParts_single hcomma, trim, String.toList_ofList, h.trimmed.trimBlanks_eq,
    String.ofList_toList]
  simp [h.ne]

end IsHop

/-- Tabs and spaces are readable, and blank. -/
theorem isReadable_blanks {blanks : List UInt8} (h : ∀ byte ∈ blanks, byte = 9 ∨ byte = 32) :
    blanks.all isReadable = true :=
  List.all_eq_true.mpr fun byte hbyte => by rcases h byte hbyte with rfl | rfl <;> rfl

theorem isBlank_blanks {blanks : List UInt8} (h : ∀ byte ∈ blanks, byte = 9 ∨ byte = 32) :
    ∀ ch ∈ blanks.map (fun b => Char.ofNat b.toNat), isBlank ch = true := by
  intro ch hch
  obtain ⟨byte, hbyte, rfl⟩ := List.mem_map.mp hch
  rcases h byte hbyte with rfl | rfl <;> rfl

theorem hops_eq (h : line.all isReadable = true) : hops line = commaParts (asciiText line) := by
  rw [hops, if_pos h, commaParts_trim]

/-- A line that holds a hop alone, between blanks, lists it. -/
theorem hops_padded (h : IsHop c) (lead trail : List UInt8) (hlead : ∀ byte ∈ lead, byte = 9 ∨ byte = 32)
    (htrail : ∀ byte ∈ trail, byte = 9 ∨ byte = 32) :
    (lead ++ asciiBytes c ++ trail).all isReadable = true ∧ hops (lead ++ asciiBytes c ++ trail) = [c] := by
  have hread : (lead ++ asciiBytes c ++ trail).all isReadable = true := by
    rw [List.all_append, List.all_append, isReadable_blanks hlead, h.readable, isReadable_blanks htrail]
    rfl
  refine ⟨hread, ?_⟩
  rw [hops_eq hread, asciiText, List.map_append, List.map_append, h.chars_asciiBytes,
    h.commaParts_eq (isBlank_blanks hlead) (isBlank_blanks htrail)]

/-- A line that holds the reported hop alone lists it. -/
theorem hops_alone (h : IsHop c) : hops (asciiBytes c) = [c] := by
  have hpadded := (hops_padded h [] [] nofun nofun).2
  rwa [List.nil_append, List.append_nil] at hpadded

/-- A readable line lists the hops before a comma and those after it. -/
theorem hops_append {before after : List UInt8} (hbefore : before.all isReadable = true)
    (hafter : after.all isReadable = true) : hops (before ++ 44 :: after) = hops before ++ hops after := by
  have hread : (before ++ 44 :: after).all isReadable = true := by
    rw [List.all_append, List.all_cons, hbefore, hafter]
    rfl
  rw [hops_eq hread, hops_eq hbefore, hops_eq hafter, asciiText, List.map_append, List.map_cons]
  exact commaParts_append ..

/-- A line that the reported hop was appended to lists it last, if what stood before is readable. -/
theorem hops_appended (h : IsHop c) (hline : line.all isReadable = true) :
    hops (line ++ 44 :: 32 :: asciiBytes c) = hops line ++ [c] := by
  obtain ⟨hread, hhops⟩ := hops_padded h [32] [] (by simp) nofun
  rw [List.append_nil, List.singleton_append] at hread hhops
  rw [hops_append hline hread, hhops]

/-- The text of an address can stand in a chain. -/
theorem Ipv4.text_isHop (a : Ipv4) : IsHop a.text where
  ne := fun hempty => by
    have hlist := congrArg String.toList hempty
    rw [a.text_toList] at hlist
    simp at hlist
  visible := fun ch hch => by
    rcases mem_text hch with hdigit | rfl
    · obtain ⟨hlow, hhigh⟩ := Numeral.toNat_of_isDigit hdigit
      refine ⟨by omega, by omega, ?_⟩
      rintro rfl
      exact absurd hdigit (by decide)
    · decide

/-! ### The chain of a request -/

theorem forwarded_head? :
    (forwarded headers).head? = (headers.find? (·.name == "x-forwarded-for")).map (·.value.toList) := by
  rw [forwarded, List.head?_map, List.head?_filter]

theorem commaParts_trimmed? (s : String) : ((trimmed? s).map commaParts).getD [] = commaParts (trim s) := by
  rw [trimmed?]
  by_cases hempty : (trim s).isEmpty = true
  · rw [if_pos hempty, String.isEmpty_iff.mp hempty]
    rfl
  · rw [if_neg hempty, Option.map_some, Option.getD_some]

/-- The chain consists of the hops of the first line, and the peer. -/
theorem chain_eq : chain headers peer = ((forwarded headers).head?.map hops).getD [] ++ [peer] := by
  rw [forwarded_head?, chain, headerWord?, headerText?]
  cases headers.find? (·.name == "x-forwarded-for") with
  | none => rfl
  | some header =>
    rw [Option.bind_some, Option.map_some, Option.map_some, hops, Option.getD_some, readable?]
    by_cases hread : header.value.toList.all isReadable = true
    · rw [if_pos hread, if_pos hread, Option.bind_some, commaParts_trimmed?, asciiText]
    · rw [if_neg hread, if_neg hread]
      rfl

/-- The client that listed hops name before a trusted peer: the last hop outside the trusted blocks; without one, the
first hop or the peer. -/
def namedBy (trusted listed : List String) (peer : String) : String :=
  ((listed.reverse.find? fun hop => !matchesAny trusted hop).or listed.head?).getD peer

variable {listed : List String}

theorem clientOf_eq (hpeer : matchesAny trusted peer = true) :
    clientOf trusted (listed ++ [peer]) peer = namedBy trusted listed peer := by
  have hne : trusted.isEmpty = false := by
    cases trusted with
    | nil => cases hpeer
    | cons => rfl
  have hskip : (listed ++ [peer]).reverse.find? (fun hop => !matchesAny trusted hop) =
      listed.reverse.find? fun hop => !matchesAny trusted hop := by
    rw [List.reverse_append, List.reverse_singleton, List.singleton_append, List.find?_cons_of_neg (by simp [hpeer])]
  rw [clientOf, hne, hskip, namedBy]
  cases listed.reverse.find? fun hop => !matchesAny trusted hop with
  | some hop => rfl
  | none => cases listed <;> rfl

theorem resolveClient_eq (hreal : ∀ h ∈ headers, h.name ≠ "x-real-ip") (hpeer : matchesAny trusted peer = true) :
    resolveClient peer headers true trusted = namedBy trusted (((forwarded headers).head?.map hops).getD []) peer := by
  have hnone : headers.find? (·.name == "x-real-ip") = none := List.find?_eq_none.mpr (by simpa using hreal)
  rw [resolveClient, if_pos rfl, headerWord?, headerText?, hnone, chain_eq, clientOf_eq hpeer]
  rfl

theorem namedBy_eq_iff (hpeer : matchesAny trusted peer = true) (houtside : matchesAny trusted c = false) :
    namedBy trusted listed peer = c ↔ (listed.reverse.find? fun hop => !matchesAny trusted hop) = some c := by
  rw [namedBy]
  cases hfind : listed.reverse.find? fun hop => !matchesAny trusted hop with
  | some hop => simp
  | none =>
    -- All that is left is trusted, and the client is not.
    have hall : ∀ hop ∈ listed, matchesAny trusted hop = true := by simpa using hfind
    have hne : ∀ hop, matchesAny trusted hop = true → hop ≠ c := fun hop hhop he => by
      rw [he, houtside] at hhop
      cases hhop
    refine iff_of_false ?_ nofun
    cases listed with
    | nil => exact hne peer hpeer
    | cons hop listed => exact hne hop (hall hop List.mem_cons_self)

theorem namedBy_cases (trusted listed : List String) (peer : String) :
    namedBy trusted listed peer = peer ∨ namedBy trusted listed peer ∈ listed := by
  rw [namedBy]
  cases hfind : listed.reverse.find? fun hop => !matchesAny trusted hop with
  | some hop => exact .inr (List.mem_reverse.mp (List.mem_of_find?_eq_some hfind))
  | none => cases listed with
    | nil => exact .inl rfl
    | cons hop listed => exact .inr List.mem_cons_self

theorem namedBy_concat (before : List String) (houtside : matchesAny trusted c = false) :
    namedBy trusted (before ++ [c]) peer = c := by
  rw [namedBy, List.reverse_append, List.reverse_singleton, List.singleton_append,
    List.find?_cons_of_pos (by simp [houtside])]
  rfl

/-! ### Reports -/

/-- How a proxy adds the client that it saw to the lines that the client sent. -/
inductive Report
  /-- To the value of all lines, joined to one. -/
  | append
  /-- To the value of the last line. -/
  | appendToLast
  /-- As a further line. -/
  | addLine

/-- Values as one value, with a comma and a space between them. -/
def joined (values : List (List UInt8)) : List UInt8 := [44, 32].intercalate values

namespace Report

/-- The lines that reach the service. -/
def lines (c : String) (client : List (List UInt8)) : Report → List (List UInt8)
  | .append => [joined (client ++ [asciiBytes c])]
  | .appendToLast => client.dropLast ++ [joined (client.getLast?.toList ++ [asciiBytes c])]
  | .addLine => client ++ [asciiBytes c]

/-- No line stands before the one with the report. -/
def First (client : List (List UInt8)) : Report → Prop
  | .append => True
  | .appendToLast => client.length ≤ 1
  | .addLine => client = []

variable {how : Report} {client : List (List UInt8)}

theorem lines_of_first (h : how.First client) : how.lines c client = [joined (client ++ [asciiBytes c])] := by
  cases how with
  | append => rfl
  | appendToLast =>
    rcases client with _ | ⟨line, _ | ⟨next, client⟩⟩
    · rfl
    · rfl
    · exact absurd h (by simp [First])
  | addLine =>
    obtain rfl : client = [] := h
    rw [List.nil_append, joined, List.intercalate_singleton]
    rfl

theorem lines_of_not_first (h : ¬how.First client) : (how.lines c client).head? = client.head? ∧ client ≠ [] := by
  cases how with
  | append => exact absurd trivial h
  | appendToLast =>
    rcases client with _ | ⟨line, _ | ⟨next, client⟩⟩
    · exact absurd (Nat.zero_le 1) h
    · exact absurd (Nat.le_refl 1) h
    · exact ⟨rfl, nofun⟩
  | addLine =>
    cases client with
    | nil => exact absurd rfl h
    | cons line client => exact ⟨rfl, nofun⟩

end Report

theorem joined_concat {values : List (List UInt8)} (h : values ≠ []) (value : List UInt8) :
    joined (values ++ [value]) = joined values ++ 44 :: 32 :: value := by
  induction values with
  | nil => exact absurd rfl h
  | cons first values ih =>
    cases values with
    | nil => simp [joined]
    | cons next values =>
      have hrest := ih nofun
      simp only [joined, List.cons_append, List.intercalate_cons_cons, List.append_assoc] at hrest ⊢
      rw [hrest]

theorem joined_readable (values : List (List UInt8)) :
    (joined values).all isReadable = values.all fun value => value.all isReadable := by
  induction values with
  | nil => rfl
  | cons first values ih =>
    cases values with
    | nil => simp [joined]
    | cons next values =>
      have hsep : [44, 32].all isReadable = true := by decide
      rw [joined] at ih ⊢
      rw [List.intercalate_cons_cons, List.all_append, List.all_append, ih, hsep, Bool.and_true]
      rfl

/-- A report on a readable line is listed last; on a line with an unreadable byte nothing is listed. -/
theorem hops_reported (h : IsHop c) (client : List (List UInt8)) :
    if client.all (fun line => line.all isReadable) then
      ∃ before, hops (joined (client ++ [asciiBytes c])) = before ++ [c]
    else hops (joined (client ++ [asciiBytes c])) = [] := by
  by_cases hread : client.all (fun line => line.all isReadable) = true
  · rw [if_pos hread]
    by_cases hne : client = []
    · exact ⟨[], by rw [hne, List.nil_append, joined, List.intercalate_singleton, hops_alone h, List.nil_append]⟩
    · rw [joined_concat hne]
      exact ⟨_, hops_appended h (by rw [joined_readable, hread])⟩
  · rw [if_neg hread, hops, if_neg]
    rw [joined_readable, List.all_append]
    exact fun hall => hread (Bool.and_eq_true_iff.mp hall).1

end Pasteboard.Net

namespace Pasteboard
open Net
open Pasteboard.Http

/-- Let a trusted proxy report a client outside the trusted blocks, and no readable line name the client directly. The
service takes the reported client for the client if and only if the report stands on the first line and everything that
the client sent is readable, or the report stands on a later line and the last hop outside the trusted blocks on the
first line, which the client wrote, is the same. Otherwise it takes the proxy for the client, or a hop that the client
wrote. -/
theorem reported_client_counts_iff {s : Settings} {r : Request} {proxy : Ipv4} {c : String}
    (htrust : s.trustProxy = true) (hpeer : r.peer.canonical = .v4 proxy)
    (hproxy : matchesAny s.trustedProxies proxy.text = true) (hc : IsHop c)
    (houtside : matchesAny s.trustedProxies c = false) (hreal : ∀ h ∈ r.headers, h.name ≠ "x-real-ip")
    (how : Report) (client : List (List UInt8)) (hlines : forwarded r.headers = how.lines c client) :
    ((Gate.Caller.of s r).clientIp = c ↔
      (how.First client ∧ ∀ line ∈ client, line.all isReadable = true) ∨
      (¬how.First client ∧ ∃ first ∈ client.head?, lastOutside s.trustedProxies first = some c)) ∧
    ((Gate.Caller.of s r).clientIp ≠ c → (Gate.Caller.of s r).clientIp = proxy.text ∨
      ¬how.First client ∧ ∃ first ∈ client.head?, (Gate.Caller.of s r).clientIp ∈ hops first) := by
  have hip : (Gate.Caller.of s r).clientIp =
      namedBy s.trustedProxies (((how.lines c client).head?.map hops).getD []) proxy.text := by
    rw [Gate.Caller.of, htrust, peerText, hpeer, ← hlines]
    exact resolveClient_eq hreal hproxy
  by_cases hfirst : how.First client
  · have hreported := hops_reported hc client
    rw [Report.lines_of_first hfirst, List.head?_singleton, Option.map_some, Option.getD_some] at hip
    split at hreported
    · -- The report is listed last.
      obtain ⟨before, hbefore⟩ := hreported
      rw [hbefore, namedBy_concat before houtside] at hip
      exact ⟨iff_of_true hip (.inl ⟨hfirst, List.all_eq_true.mp ‹_›⟩), fun hne => absurd hip hne⟩
    · -- With an unreadable byte nothing is listed, so only the proxy is left.
      rw [hreported] at hip
      have hne : (Gate.Caller.of s r).clientIp ≠ c := fun he => by
        rw [← he, hip] at houtside
        exact absurd (houtside.symm.trans hproxy) nofun
      refine ⟨iff_of_false hne ?_, fun _ => .inl hip⟩
      rintro (⟨-, hall⟩ | ⟨hnot, -⟩)
      · exact absurd (List.all_eq_true.mpr hall) ‹_›
      · exact hnot hfirst
  · -- The first line is the client's own.
    obtain ⟨hhead, hne⟩ := how.lines_of_not_first (c := c) hfirst
    obtain ⟨first, rest, rfl⟩ := List.exists_cons_of_ne_nil hne
    rw [hhead, List.head?_cons, Option.map_some, Option.getD_some] at hip
    rw [hip, namedBy_eq_iff hproxy houtside]
    refine ⟨⟨fun h => .inr ⟨hfirst, first, rfl, h⟩, ?_⟩, fun _ => ?_⟩
    · rintro (⟨h, -⟩ | ⟨-, line, hline, h⟩)
      · exact absurd h hfirst
      · obtain rfl : first = line := Option.some.inj hline
        exact h
    · rcases namedBy_cases s.trustedProxies (hops first) proxy.text with h | h
      · exact .inl h
      · exact .inr ⟨hfirst, first, rfl, h⟩

/-- Settings that trust the proxies of one block, and readers on the machine itself. -/
def proxiedSettings : Settings :=
  { plainSettings with trustProxy := true, allowLocalhost := true, trustedProxies := ["10.0.0.0/8"] }

/-- A read that a trusted proxy hands on with lines of hops. -/
def handedOn (lines : List (List UInt8)) : Request where
  method := "GET"
  target := ⟨"/", none⟩
  headers := lines.map fun line => ⟨"x-forwarded-for", ⟨line.toArray⟩⟩
  body := ByteArray.empty
  peer := .v4 (.ofOctets 10 0 0 1)

/-- The report on the first line counts, whatever the client wrote before it. -/
theorem reported_client_counts_appended :
    (Gate.Caller.of proxiedSettings (handedOn (Report.append.lines "203.0.113.7" [asciiBytes "127.0.0.1"]))).clientIp =
      "203.0.113.7" := by
  have htext : (Ipv4.ofOctets 203 0 113 7).text = "203.0.113.7" := by decide +kernel
  have hpeer : (handedOn (Report.append.lines "203.0.113.7" [asciiBytes "127.0.0.1"])).peer.canonical =
      .v4 (.ofOctets 10 0 0 1) := rfl
  have hproxy : matchesAny proxiedSettings.trustedProxies (Ipv4.ofOctets 10 0 0 1).text = true := by decide +kernel
  have hreadable : ∀ line ∈ [asciiBytes "127.0.0.1"], line.all isReadable = true := by decide +kernel
  exact (reported_client_counts_iff rfl hpeer hproxy (htext ▸ Ipv4.text_isHop _) (by decide +kernel) (by decide +kernel)
    .append _ (by decide +kernel)).1.mpr (.inl ⟨trivial, hreadable⟩)

/-- A line of the client's own goes before the line with the report: the client passes for the machine itself. A byte
that is not readable hides the report: the client passes for the proxy. -/
theorem forged_line_counts :
    matchesAny proxiedSettings.trustedProxies (Ipv4.ofOctets 10 0 0 1).text = true ∧
    matchesAny proxiedSettings.trustedProxies "203.0.113.7" = false ∧
    (Gate.Caller.of proxiedSettings (handedOn (Report.addLine.lines "203.0.113.7" [asciiBytes "127.0.0.1"]))).clientIp =
      "127.0.0.1" ∧
    (∀ b, ((Gate.evaluate proxiedSettings (.of proxiedSettings
        (handedOn (Report.addLine.lines "203.0.113.7" [asciiBytes "127.0.0.1"])))).on b).1 =
      .ok (.pass ⟨"127.0.0.1", none⟩)) ∧
    (Gate.Caller.of proxiedSettings (handedOn (Report.append.lines "203.0.113.7" [[0xE9]]))).clientIp = "10.0.0.1" := by
  have hcaller : Gate.Caller.of proxiedSettings
      (handedOn (Report.addLine.lines "203.0.113.7" [asciiBytes "127.0.0.1"])) =
        ⟨"GET", "/", none, "127.0.0.1"⟩ := by decide +kernel
  have hlocal : Net.isLoopback "127.0.0.1" = true := by decide +kernel
  refine ⟨by decide +kernel, by decide +kernel, by rw [hcaller], fun b => ?_, by decide +kernel⟩
  rw [hcaller, Gate.evaluate]
  simp [hlocal, Gate.isRead, proxiedSettings, plainSettings]

end Pasteboard
