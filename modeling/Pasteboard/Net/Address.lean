import Pasteboard.Text.Letter
import Pasteboard.Text.Numeral
import Pasteboard.Text.Hex
/-!
Internet addresses and their texts.

An IPv4 address is written as four decimal numbers without leading zeros. An IPv6 address is read
in every form of RFC 4291 and written as RFC 5952 recommends, an IPv4-mapped one with its last
part in dotted form.
-/

namespace Pasteboard.Net

open Pasteboard.Text

/-- An IPv4 address as a number of 32 bits. -/
structure Ipv4 where
  /-- The address, the first octet most significant. -/
  value : Nat
  value_lt : value < 4294967296
  deriving DecidableEq, Repr

/-- An IPv6 address: eight groups of 16 bits. -/
structure Ipv6 where
  /-- The groups, the most significant first. -/
  groups : List Nat
  deriving DecidableEq, Repr

/-- An address of either family. -/
inductive Address
  | v4 (a : Ipv4)
  | v6 (a : Ipv6)
  deriving DecidableEq, Repr

/-- The address with four octets. -/
def Ipv4.ofOctets (a b c d : Nat) : Ipv4 :=
  ⟨((a % 256 * 256 + b % 256) * 256 + c % 256) * 256 + d % 256, by omega⟩

/-- The four octets. -/
def Ipv4.octets (a : Ipv4) : List Nat :=
  [a.value / 16777216, a.value / 65536 % 256, a.value / 256 % 256, a.value % 256]

/-- The dotted text. -/
def Ipv4.text (a : Ipv4) : String :=
  String.intercalate "." (a.octets.map fun (n : Nat) => toString n)

/-! ### Reading -/

/-- A value that is greater than every number in an address. -/
def beyondAll : Nat := 4294967296

/-- Takes the longest run of digits in a base onto a value, which goes no further than to
`beyondAll`; also gives how many there were. -/
def takeDigits (digit? : Char → Option Nat) (base : Nat) (value count : Nat) :
    List Char → Nat × Nat × List Char
  | [] => (value, count, [])
  | c :: cs =>
    match digit? c with
    | some d => takeDigits digit? base (min (value * base + d) beyondAll) (count + 1) cs
    | none => (value, count, c :: cs)

/-- An octet: one to three digits, no leading zero, at most 255. -/
def octet? (cs : List Char) : Option (Nat × List Char) :=
  let (value, count, rest) := takeDigits Numeral.digit? 10 0 0 cs
  if count = 0 ∨ 3 < count ∨ 255 < value then none
  else if cs.head? = some '0' ∧ 1 < count then none
  else some (value, rest)

/-- What follows a character that must stand first. -/
def past? (c : Char) : List Char → Option (List Char)
  | d :: cs => if c = d then some cs else none
  | [] => none

/-- An IPv4 address at the front. -/
def ipv4Front? (cs : List Char) : Option (Ipv4 × List Char) := do
  let (a, cs) ← octet? cs
  let cs ← past? '.' cs
  let (b, cs) ← octet? cs
  let cs ← past? '.' cs
  let (c, cs) ← octet? cs
  let cs ← past? '.' cs
  let (d, cs) ← octet? cs
  return (Ipv4.ofOctets a b c d, cs)

/-- A group of an IPv6 address: one to four hexadecimal digits. -/
def group? (cs : List Char) : Option (Nat × List Char) :=
  let (value, count, rest) := takeDigits Hex.value? 16 0 0 cs
  if count = 0 ∨ 4 < count then none else some (value, rest)

/-- Up to `room` groups separated by colons, `count` of them already read, the last two places
also in dotted form; with the groups, in reverse order, and whether they end in dotted form. -/
def groupsOnto (out : List Nat) (count : Nat) : Nat → List Char → List Nat × Bool × List Char
  | 0, cs => (out, false, cs)
  | room + 1, cs =>
    let inner := if count = 0 then some cs else past? ':' cs
    let dotted := if room = 0 then none else inner.bind ipv4Front?
    match dotted with
    | some (a, rest) => (a.value % 65536 :: a.value / 65536 :: out, true, rest)
    | none =>
      match inner.bind group? with
      | some (g, rest) => groupsOnto (g :: out) (count + 1) room rest
      | none => (out, false, cs)

/-- An IPv6 address at the front. -/
def ipv6Front? (cs : List Char) : Option (Ipv6 × List Char) :=
  let (head, dotted, rest) := groupsOnto [] 0 8 cs
  if head.length = 8 then some (⟨head.reverse⟩, rest)
  else if dotted then none
  else do
    let rest ← past? ':' rest
    let rest ← past? ':' rest
    let (tail, _, rest) := groupsOnto [] 0 (7 - head.length) rest
    let zeros := List.replicate (8 - head.length - tail.length) 0
    return (⟨head.reverse ++ zeros ++ tail.reverse⟩, rest)

/-- What was read, if nothing is left. -/
def whole? {α : Type} : Option (α × List Char) → Option α
  | some (a, []) => some a
  | _ => none

/-- The IPv4 address that a text denotes. -/
def Ipv4.read? (s : String) : Option Ipv4 :=
  whole? (ipv4Front? s.toList)

/-- The IPv6 address that a text denotes. -/
def Ipv6.read? (s : String) : Option Ipv6 :=
  whole? (ipv6Front? s.toList)

/-- The address of either family that a text denotes. -/
def Address.read? (s : String) : Option Address :=
  match Ipv4.read? s with
  | some a => some (.v4 a)
  | none => (Ipv6.read? s).map .v6

/-! ### Writing -/

/-- Hexadecimal digits onto those of the lower places. -/
def hexOnto : Nat → Nat → List Char → List Char
  | 0, _, out => out
  | fuel + 1, n, out =>
    if n < 16 then Hex.digit n :: out else hexOnto fuel (n / 16) (Hex.digit (n % 16) :: out)

/-- A group without leading zeros. -/
def groupText (n : Nat) : String :=
  String.ofList (hexOnto 8 n [])

/-- The IPv4 address that an IPv4-mapped address holds. -/
def Ipv6.mapped? (a : Ipv6) : Option Ipv4 :=
  match a.groups with
  | [0, 0, 0, 0, 0, 0xFFFF, g, h] =>
    some (Ipv4.ofOctets (g / 256) (g % 256) (h / 256) (h % 256))
  | _ => none

/-- How many zeros a list starts with. -/
def leadingZeros (gs : List Nat) : Nat :=
  (gs.takeWhile (· == 0)).length

/-- The place and length of the first longest run of zeros, better than the one at hand. -/
def longestRun (at_ : Nat) (best : Nat × Nat) : List Nat → Nat × Nat
  | [] => best
  | g :: gs =>
    let run := leadingZeros (g :: gs)
    longestRun (at_ + 1) (if best.2 < run then (at_, run) else best) gs

/-- Groups separated by colons. -/
def groupsText (gs : List Nat) : String :=
  String.intercalate ":" (gs.map groupText)

/-- The recommended text. -/
def Ipv6.text (a : Ipv6) : String :=
  match a.mapped? with
  | some inner => "::ffff:" ++ inner.text
  | none =>
    let (start, length) := longestRun 0 (0, 0) a.groups
    if 1 < length then
      groupsText (a.groups.take start) ++ "::" ++ groupsText (a.groups.drop (start + length))
    else groupsText a.groups

/-- The text of an address of either family. -/
def Address.text : Address → String
  | .v4 a => a.text
  | .v6 a => a.text

/-- The address itself, or the IPv4 address that it maps. -/
def Address.canonical : Address → Address
  | .v4 a => .v4 a
  | .v6 a => match a.mapped? with
    | some inner => .v4 inner
    | none => .v6 a

/-! ### Addresses with ports -/

/-- An address and a port; the scope is that of an IPv6 address and zero otherwise. -/
structure Endpoint where
  address : Address
  scope : Nat
  port : Nat
  deriving DecidableEq, Repr

/-- A decimal number of at most `bound`, leading zeros allowed, at the front. -/
def boundedFront? (bound : Nat) (cs : List Char) : Option (Nat × List Char) :=
  let (value, count, rest) := takeDigits Numeral.digit? 10 0 0 cs
  if count = 0 ∨ bound < value then none else some (value, rest)

/-- The endpoint that a text denotes: an IPv4 address or an IPv6 address in brackets, with a
port. -/
def Endpoint.read? (s : String) : Option Endpoint :=
  let v4 : Option Endpoint := whole? do
    let (a, cs) ← ipv4Front? s.toList
    let cs ← past? ':' cs
    let (port, cs) ← boundedFront? 65535 cs
    return (⟨.v4 a, 0, port⟩, cs)
  let v6 : Option Endpoint := whole? do
    let cs ← past? '[' s.toList
    let (a, cs) ← ipv6Front? cs
    let (scope, cs) := match (past? '%' cs).bind (boundedFront? 4294967295) with
      | some (scope, rest) => (scope, rest)
      | none => (0, cs)
    let cs ← past? ']' cs
    let cs ← past? ':' cs
    let (port, cs) ← boundedFront? 65535 cs
    return (⟨.v6 a, scope, port⟩, cs)
  match v4 with
  | some e => some e
  | none => v6

/-- The text of an endpoint. -/
def Endpoint.text (e : Endpoint) : String :=
  match e.address with
  | .v4 a => a.text ++ ":" ++ toString e.port
  | .v6 a =>
    let scope := if e.scope = 0 then "" else "%" ++ toString e.scope
    "[" ++ a.text ++ scope ++ "]:" ++ toString e.port

end Pasteboard.Net
