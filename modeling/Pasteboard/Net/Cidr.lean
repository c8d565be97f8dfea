import Pasteboard.Net.Address
import Pasteboard.Text.Blank
/-!
CIDR blocks: the addresses that share the leading bits of a network.

Rules are kept as texts. A text with a slash names a block; one without is compared as it stands.
`normalize` gives the one text of a block that begins with its network address.
-/

namespace Pasteboard.Net

open Pasteboard.Text

/-- A block: the addresses that agree with `network` in their first `bits` bits. -/
structure Cidr where
  network : Ipv4
  /-- The length of the shared part. -/
  bits : Nat
  bits_le : bits ≤ 32
  deriving DecidableEq, Repr

/-- Why a text is no block. Each fault carries the trimmed text. -/
inductive CidrFault
  | notAddress (input : String)
  | badLength (input : String)
  deriving DecidableEq, Repr

/-- The words for a fault. -/
def CidrFault.message : CidrFault → String
  | .notAddress input => "'" ++ input ++ "' is not an IPv4 address"
  | .badLength input => "'" ++ input ++ "' has a prefix length outside 0..=32"

/-- How many addresses a block with shared parts of `bits` bits has. -/
def blockSize (bits : Nat) : Nat :=
  Nat.pow 2 (32 - bits)

/-- Whether an address lies in a block. -/
def Cidr.covers (c : Cidr) (a : Ipv4) : Bool :=
  a.value / blockSize c.bits == c.network.value / blockSize c.bits

/-- The first address of a block. -/
def Cidr.base (c : Cidr) : Ipv4 :=
  ⟨c.network.value / blockSize c.bits * blockSize c.bits,
    Nat.lt_of_le_of_lt (Nat.div_mul_le_self _ _) c.network.value_lt⟩

/-- The text of a block: its first address and the length of the shared part. -/
def Cidr.text (c : Cidr) : String :=
  c.base.text ++ "/" ++ toString c.bits

/-- The length of a shared part: a number from 0 to 32 between blanks. -/
def sharedBits? (s : String) : Option { n : Nat // n ≤ 32 } :=
  match Numeral.read? Numeral.nat32 (trim s) with
  | some n => if h : n.toNat ≤ 32 then some ⟨n.toNat, h⟩ else none
  | none => none

/-- The dotted address between blanks. -/
def dotted? (s : String) : Option Ipv4 :=
  Ipv4.read? (trim s)

/-- Whether a rule's text matches a client's text: as blocks if the rule has a slash, otherwise as
trimmed texts. -/
def cidrMatches (cidr ip : String) : Bool :=
  match splitOnce '/' cidr with
  | none => trim cidr == trim ip
  | some (network, bits) =>
    match sharedBits? bits, dotted? network, dotted? ip with
    | some bits, some network, some candidate =>
      (Cidr.mk network bits.val bits.property).covers candidate
    | _, _, _ => false

/-- Whether one of the rules matches. -/
def matchesAny (cidrs : List String) (ip : String) : Bool :=
  cidrs.any fun cidr => cidrMatches cidr ip

/-- The client is on the machine itself. -/
def isLoopback (ip : String) : Bool :=
  ip == "::1" || cidrMatches "127.0.0.0/8" ip

/-- Reads a text as a block; an address alone is the block of that address. The length is examined
before the address. -/
def Cidr.read (s : String) : Except CidrFault Cidr :=
  let input := trim s
  let (address, bits) : String × Option { n : Nat // n ≤ 32 } :=
    match splitOnce '/' input with
    | some (address, bits) => (address, sharedBits? bits)
    | none => (input, some ⟨32, Nat.le_refl 32⟩)
  match bits with
  | none => .error (.badLength input)
  | some bits =>
    match dotted? address with
    | none => .error (.notAddress input)
    | some network => .ok ⟨network, bits.val, bits.property⟩

/-- The normal text of the block that a text names. -/
def normalizeCidr (s : String) : Except CidrFault String :=
  (Cidr.read s).map Cidr.text

end Pasteboard.Net
