import Pasteboard.Http.Header
import Pasteboard.Net.Cidr
/-!
The client's address behind proxies.

Where proxies are trusted, the addresses that `X-Forwarded-For` lists, and the peer after them,
form a chain that ends next to the server. The client is the last entry of the chain outside the
trusted blocks; if there is none, the first entry. A readable `X-Real-IP` goes before both.
-/

namespace Pasteboard.Net

open Pasteboard.Http (Header headerWord?)

/-- The text of the peer's address; an IPv4-mapped address counts as the IPv4 address. -/
def peerText (peer : Address) : String :=
  peer.canonical.text

/-- The chain of addresses that a request passed, the peer last. -/
def chain (headers : List Header) (peer : String) : List String :=
  ((headerWord? headers "x-forwarded-for").map Text.commaParts).getD [] ++ [peer]

/-- The client that a chain names: its last entry outside the trusted blocks, or its first. -/
def clientOf (trusted : List String) (chain : List String) (peer : String) : String :=
  let outside :=
    if trusted.isEmpty then none else chain.reverse.find? fun hop => !matchesAny trusted hop
  (outside.or chain.head?).getD peer

/-- The address that the policy applies to. -/
def resolveClient (peer : String) (headers : List Header) (trustProxy : Bool)
    (trusted : List String) : String :=
  if trustProxy then
    (headerWord? headers "x-real-ip").getD (clientOf trusted (chain headers peer) peer)
  else peer

end Pasteboard.Net
