import Pasteboard.Text.Hex
/-!
The digest SHA-256 of FIPS 180-4, written in hexadecimal.
-/

namespace Pasteboard.Text.Sha256

/-- The round constants: the first 32 bits of the fractional parts of the cube roots of the first
64 primes. -/
def constants : Array UInt32 := #[
  0x428a2f98, 0x71374491, 0xb5c0fbcf, 0xe9b5dba5, 0x3956c25b, 0x59f111f1, 0x923f82a4, 0xab1c5ed5,
  0xd807aa98, 0x12835b01, 0x243185be, 0x550c7dc3, 0x72be5d74, 0x80deb1fe, 0x9bdc06a7, 0xc19bf174,
  0xe49b69c1, 0xefbe4786, 0x0fc19dc6, 0x240ca1cc, 0x2de92c6f, 0x4a7484aa, 0x5cb0a9dc, 0x76f988da,
  0x983e5152, 0xa831c66d, 0xb00327c8, 0xbf597fc7, 0xc6e00bf3, 0xd5a79147, 0x06ca6351, 0x14292967,
  0x27b70a85, 0x2e1b2138, 0x4d2c6dfc, 0x53380d13, 0x650a7354, 0x766a0abb, 0x81c2c92e, 0x92722c85,
  0xa2bfe8a1, 0xa81a664b, 0xc24b8b70, 0xc76c51a3, 0xd192e819, 0xd6990624, 0xf40e3585, 0x106aa070,
  0x19a4c116, 0x1e376c08, 0x2748774c, 0x34b0bcb5, 0x391c0cb3, 0x4ed8aa4a, 0x5b9cca4f, 0x682e6ff3,
  0x748f82ee, 0x78a5636f, 0x84c87814, 0x8cc70208, 0x90befffa, 0xa4506ceb, 0xbef9a3f7, 0xc67178f2]

/-- The eight words of a digest under way. -/
structure Words where
  a : UInt32
  b : UInt32
  c : UInt32
  d : UInt32
  e : UInt32
  f : UInt32
  g : UInt32
  h : UInt32

/-- The first 32 bits of the fractional parts of the square roots of the first eight primes. -/
def Words.start : Words :=
  ⟨0x6a09e667, 0xbb67ae85, 0x3c6ef372, 0xa54ff53a, 0x510e527f, 0x9b05688c, 0x1f83d9ab, 0x5be0cd19⟩

/-- Word by word sum. -/
def Words.add (x y : Words) : Words :=
  ⟨x.a + y.a, x.b + y.b, x.c + y.c, x.d + y.d, x.e + y.e, x.f + y.f, x.g + y.g, x.h + y.h⟩

/-- Rotation to the right. -/
def rotate (x : UInt32) (n : UInt32) : UInt32 :=
  (x >>> n) ||| (x <<< (32 - n))

/-- The message followed by a one bit, zeros up to 56 bytes modulo 64, and its length in bits. -/
def pad (bytes : ByteArray) : ByteArray :=
  let zeros := (119 - bytes.size % 64) % 64
  let bits := bytes.size * 8
  let padded := (List.replicate zeros (0 : UInt8)).foldl ByteArray.push (bytes.push 0x80)
  [56, 48, 40, 32, 24, 16, 8, 0].foldl (fun out shift => out.push (UInt8.ofNat (bits >>> shift))) padded

/-- The big-endian word at a byte offset. -/
def wordAt (bytes : ByteArray) (i : Nat) : UInt32 :=
  ((bytes.get! i).toUInt32 <<< 24) ||| ((bytes.get! (i + 1)).toUInt32 <<< 16) |||
    ((bytes.get! (i + 2)).toUInt32 <<< 8) ||| (bytes.get! (i + 3)).toUInt32

/-- The message schedule of the block at a byte offset. -/
def schedule (bytes : ByteArray) (offset : Nat) : Array UInt32 :=
  let block := (Array.range 16).map fun i => wordAt bytes (offset + 4 * i)
  (List.range 48).foldl (fun w i =>
    let x := w[i + 1]!
    let y := w[i + 14]!
    let s0 := rotate x 7 ^^^ rotate x 18 ^^^ (x >>> 3)
    let s1 := rotate y 17 ^^^ rotate y 19 ^^^ (y >>> 10)
    w.push (w[i]! + s0 + w[i + 9]! + s1)) block

/-- One round with its schedule word and constant added up. -/
def round (x : Words) (k : UInt32) : Words :=
  let s1 := rotate x.e 6 ^^^ rotate x.e 11 ^^^ rotate x.e 25
  let choice := (x.e &&& x.f) ^^^ ((~~~ x.e) &&& x.g)
  let t1 := x.h + s1 + choice + k
  let s0 := rotate x.a 2 ^^^ rotate x.a 13 ^^^ rotate x.a 22
  let majority := (x.a &&& x.b) ^^^ (x.a &&& x.c) ^^^ (x.b &&& x.c)
  ⟨t1 + (s0 + majority), x.a, x.b, x.c, x.d + t1, x.e, x.f, x.g⟩

/-- The words after one more block. -/
def absorb (bytes : ByteArray) (x : Words) (block : Nat) : Words :=
  let w := schedule bytes (64 * block)
  x.add ((List.range 64).foldl (fun y i => round y (w[i]! + constants[i]!)) x)

/-- The four bytes of a word, the most significant first. -/
def wordBytes (x : UInt32) : List UInt8 :=
  [(x >>> 24).toUInt8, (x >>> 16).toUInt8, (x >>> 8).toUInt8, x.toUInt8]

/-- The 32 bytes of the digest. -/
def digest (bytes : ByteArray) : ByteArray :=
  let padded := pad bytes
  let x := (List.range (padded.size / 64)).foldl (absorb padded) Words.start
  ByteArray.mk (([x.a, x.b, x.c, x.d, x.e, x.f, x.g, x.h].flatMap wordBytes).toArray)

/-- The digest of bytes in 64 lower-case hexadecimal digits. -/
def hex (bytes : ByteArray) : String :=
  Hex.encode (digest bytes)

example : hex "abc".toUTF8 = "ba7816bf8f01cfea414140de5dae2223b00361a396177a9cb410ff61f20015ad" := by decide +kernel

/-- The digest of the UTF-8 bytes of a text. -/
def hexOfText (s : String) : String :=
  hex s.toUTF8

end Pasteboard.Text.Sha256
