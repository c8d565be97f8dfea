import Pasteboard.Proofs.Access.Forwarded
/-!
The client that a chain of addresses names.

The chain begins with what the first forwarding line lists and ends with the peer. With trusted blocks the client is the
last entry outside them. So it depends on nothing that stands before this entry, and a client cannot make itself another
by what it writes in front of the addresses that proxies add.
-/

namespace Pasteboard.Net

open Pasteboard.Http
open Text

variable {headers : List Header} {trusted listed before after : List String} {hop peer : String}
  {value : Option (List UInt8)}

/-- The hops in the value of a line, or of none: the parts between the commas, trimmed, those left out of which nothing
is left. -/
def listedHops (value : Option (List UInt8)) : List String :=
  ((((value.map asciiText).getD "").toList.splitOn ',').map fun part => trim (String.ofList part)).filter (· ≠ "")

/-! ### The chain -/

theorem listedHops_eq (h : ∀ bytes ∈ value, bytes.all isReadable = true) :
    (value.map hops).getD [] = listedHops value := by
  rw [listedHops, ← commaParts_eq]
  cases value with
  | none => decide
  | some bytes => exact hops_eq (h bytes rfl)

theorem chain_eq_listed (h : ∀ bytes ∈ (forwarded headers).head?, bytes.all isReadable = true) :
    chain headers peer = listedHops (forwarded headers).head? ++ [peer] := by
  rw [chain_eq, listedHops_eq h]

theorem resolveClient_of_noWord (hreal : headerWord? headers "x-real-ip" = none) :
    resolveClient peer headers true trusted = clientOf trusted (chain headers peer) peer := by
  rw [resolveClient, if_pos rfl, hreal, Option.getD_none]

/-! ### The client of a chain -/

theorem clientOf_last (htrusted : trusted ≠ []) (houtside : matchesAny trusted hop = false)
    (hafter : ∀ other ∈ after, matchesAny trusted other = true) :
    clientOf trusted (before ++ hop :: after) peer = hop := by
  have hfind : (before ++ hop :: after).reverse.find? (fun hop => !matchesAny trusted hop) = some hop := by
    have hskip : after.reverse.find? (fun hop => !matchesAny trusted hop) = none := by
      rw [List.find?_eq_none]
      intro other hother
      simp [hafter other (List.mem_reverse.mp hother)]
    rw [List.reverse_append, List.reverse_cons, List.append_assoc, List.find?_append, hskip, Option.none_or,
      List.singleton_append, List.find?_cons_of_pos (by simp [houtside])]
  rw [clientOf, if_neg (by simpa using htrusted), hfind]
  rfl

theorem clientOf_first (h : trusted = [] ∨ ∀ other ∈ hop :: after, matchesAny trusted other = true) :
    clientOf trusted (hop :: after) peer = hop := by
  have hnone : (if trusted.isEmpty then none
      else (hop :: after).reverse.find? fun hop => !matchesAny trusted hop) = none := by
    rcases h with rfl | hall
    · rfl
    · split
      · rfl
      · rw [List.find?_eq_none]
        intro other hother
        simp [hall other (List.mem_reverse.mp hother)]
  rw [clientOf, hnone]
  rfl

theorem exists_last_outside (h : ∃ hop ∈ listed, matchesAny trusted hop = false) :
    ∃ before hop after, listed = before ++ hop :: after ∧ matchesAny trusted hop = false ∧
      ∀ other ∈ after, matchesAny trusted other = true := by
  induction listed with
  | nil =>
    obtain ⟨_, hmem, -⟩ := h
    cases hmem
  | cons first rest ih =>
    by_cases hrest : ∃ hop ∈ rest, matchesAny trusted hop = false
    · obtain ⟨before, hop, after, rfl, hlast⟩ := ih hrest
      exact ⟨first :: before, hop, after, rfl, hlast⟩
    · have hall : ∀ other ∈ rest, matchesAny trusted other = true := by simpa using hrest
      obtain ⟨hop, hmem, houtside⟩ := h
      rcases List.mem_cons.mp hmem with rfl | hmem
      · exact ⟨[], hop, rest, rfl, houtside, hall⟩
      · exact absurd ⟨hop, hmem, houtside⟩ hrest

/-- What stands before a chain with an entry outside the trusted blocks does not matter. -/
theorem clientOf_append (htrusted : trusted ≠ []) (h : ∃ hop ∈ listed, matchesAny trusted hop = false)
    (more : List String) : clientOf trusted (more ++ listed) peer = clientOf trusted listed peer := by
  obtain ⟨before, hop, after, rfl, houtside, hafter⟩ := exists_last_outside h
  rw [← List.append_assoc, clientOf_last htrusted houtside hafter, clientOf_last htrusted houtside hafter]

/-! ### The client of a request -/

/-- Let no readable line name the client directly, and let the first line that lists hops be readable, if there is one.
The chain consists of the hops that this line lists, and of the peer. With trusted blocks, the client is the last entry
of the chain outside them; with no such entry, or no such blocks, the first entry. So if there are trusted blocks and an
entry outside them, the client stays the same whatever readable text and comma is put in front of the line. -/
theorem client_is_last_outside (peer : String) (trusted : List String) {chain : List String}
    (hreal : headerWord? headers "x-real-ip" = none)
    (hread : ∀ bytes ∈ (forwarded headers).head?, bytes.all isReadable = true)
    (hchain : chain = listedHops (forwarded headers).head? ++ [peer]) :
    (∀ before hop after, chain = before ++ hop :: after → trusted ≠ [] → matchesAny trusted hop = false →
      (∀ other ∈ after, matchesAny trusted other = true) → resolveClient peer headers true trusted = hop) ∧
    ((trusted = [] ∨ ∀ hop ∈ chain, matchesAny trusted hop = true) →
      chain.head? = some (resolveClient peer headers true trusted)) ∧
    (trusted ≠ [] → (∃ hop ∈ chain, matchesAny trusted hop = false) →
      ∀ (headers' : List Header) (more : List UInt8), headerWord? headers' "x-real-ip" = none →
        more.all isReadable = true →
        (forwarded headers').head? = some (more ++ 44 :: (forwarded headers).head?.getD []) →
        resolveClient peer headers' true trusted = resolveClient peer headers true trusted) := by
  have hclient : resolveClient peer headers true trusted = clientOf trusted chain peer := by
    rw [resolveClient_of_noWord hreal, chain_eq_listed hread, hchain]
  refine ⟨?_, ?_, ?_⟩
  · rintro before hop after rfl htrusted houtside hafter
    rw [hclient, clientOf_last htrusted houtside hafter]
  · intro h
    obtain ⟨first, rest, rfl⟩ : ∃ first rest, chain = first :: rest :=
      List.exists_cons_of_ne_nil (by simp [hchain])
    rw [hclient, clientOf_first h, List.head?_cons]
  · intro htrusted houtside headers' more hreal' hmore hvalue
    have hrest : (((forwarded headers).head?.getD []).all isReadable) = true := by
      cases hhead : (forwarded headers).head? with
      | none => rfl
      | some bytes => exact hread bytes hhead
    have hhops : hops ((forwarded headers).head?.getD []) = ((forwarded headers).head?.map hops).getD [] := by
      cases (forwarded headers).head? with
      | none => decide
      | some bytes => rfl
    have hlonger : Net.chain headers' peer = hops more ++ chain := by
      rw [chain_eq, hvalue, Option.map_some, Option.getD_some, hops_append hmore hrest, List.append_assoc, hhops,
        listedHops_eq hread, hchain]
    rw [resolveClient_of_noWord hreal', hlonger, clientOf_append htrusted houtside, hclient]

/-- A line that proxies added to, with an empty part, and the same line behind what the client wrote. -/
def addedTo : List Header := (handedOn [asciiBytes "203.0.113.7, 198.51.100.2 ,, 10.0.0.3"]).headers
def writtenBefore : List Header := (handedOn [asciiBytes "127.0.0.1, x,203.0.113.7, 198.51.100.2 ,, 10.0.0.3"]).headers

/-- The last hop outside the trusted block is the client, whatever was written before. -/
theorem client_is_last_outside_added :
    ["203.0.113.7", "198.51.100.2", "10.0.0.3", "10.0.0.1"] = listedHops (forwarded addedTo).head? ++ ["10.0.0.1"] ∧
    resolveClient "10.0.0.1" addedTo true ["10.0.0.0/8"] = "198.51.100.2" ∧
    resolveClient "10.0.0.1" addedTo true [] = "203.0.113.7" ∧
    resolveClient "10.0.0.1" writtenBefore true ["10.0.0.0/8"] =
      resolveClient "10.0.0.1" addedTo true ["10.0.0.0/8"] := by
  have hreal : headerWord? addedTo "x-real-ip" = none := by decide +kernel
  have hread : ∀ bytes ∈ (forwarded addedTo).head?, bytes.all isReadable = true := by decide +kernel
  have hchain : ["203.0.113.7", "198.51.100.2", "10.0.0.3", "10.0.0.1"] =
      listedHops (forwarded addedTo).head? ++ ["10.0.0.1"] := by decide +kernel
  have houtside : matchesAny ["10.0.0.0/8"] "198.51.100.2" = false := by decide +kernel
  have hafter : ∀ other ∈ ["10.0.0.3", "10.0.0.1"], matchesAny ["10.0.0.0/8"] other = true := by decide +kernel
  obtain ⟨hlast, -, hsame⟩ := client_is_last_outside "10.0.0.1" ["10.0.0.0/8"] hreal hread hchain
  obtain ⟨-, hfirst, -⟩ := client_is_last_outside "10.0.0.1" [] hreal hread hchain
  exact ⟨hchain, hlast ["203.0.113.7"] _ _ rfl nofun houtside hafter, (Option.some.inj (hfirst (.inl rfl))).symm,
    hsame nofun ⟨_, by simp, houtside⟩ writtenBefore (asciiBytes "127.0.0.1, x") (by decide +kernel) (by decide +kernel)
      (by decide +kernel)⟩

end Pasteboard.Net
