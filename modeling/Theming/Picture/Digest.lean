import Theming.Picture.Raster

/-!
# SHA-256

The SHA-256 digest (FIPS 180-4) of a byte string: the message is padded with a one bit, zeros
and its bit length to a multiple of 64 bytes, and each 64-byte block is mixed into eight 32-bit
words by 64 rounds.

A canvas is identified by the digest of its pixels, row by row, four bytes (red, green, blue,
alpha) each, written as lower-case hex.
-/

set_option autoImplicit false

namespace Theming.Picture.Sha256

/-- The round constants. -/
def roundConstants : Array UInt32 := #[
  0x428a2f98, 0x71374491, 0xb5c0fbcf, 0xe9b5dba5, 0x3956c25b, 0x59f111f1, 0x923f82a4, 0xab1c5ed5,
  0xd807aa98, 0x12835b01, 0x243185be, 0x550c7dc3, 0x72be5d74, 0x80deb1fe, 0x9bdc06a7, 0xc19bf174,
  0xe49b69c1, 0xefbe4786, 0x0fc19dc6, 0x240ca1cc, 0x2de92c6f, 0x4a7484aa, 0x5cb0a9dc, 0x76f988da,
  0x983e5152, 0xa831c66d, 0xb00327c8, 0xbf597fc7, 0xc6e00bf3, 0xd5a79147, 0x06ca6351, 0x14292967,
  0x27b70a85, 0x2e1b2138, 0x4d2c6dfc, 0x53380d13, 0x650a7354, 0x766a0abb, 0x81c2c92e, 0x92722c85,
  0xa2bfe8a1, 0xa81a664b, 0xc24b8b70, 0xc76c51a3, 0xd192e819, 0xd6990624, 0xf40e3585, 0x106aa070,
  0x19a4c116, 0x1e376c08, 0x2748774c, 0x34b0bcb5, 0x391c0cb3, 0x4ed8aa4a, 0x5b9cca4f, 0x682e6ff3,
  0x748f82ee, 0x78a5636f, 0x84c87814, 0x8cc70208, 0x90befffa, 0xa4506ceb, 0xbef9a3f7, 0xc67178f2]

/-- The initial hash words. -/
def initial : Array UInt32 :=
  #[0x6a09e667, 0xbb67ae85, 0x3c6ef372, 0xa54ff53a, 0x510e527f, 0x9b05688c, 0x1f83d9ab, 0x5be0cd19]

/-- Rotation to the right. -/
def rotr (x : UInt32) (n : UInt32) : UInt32 := (x >>> n) ||| (x <<< (32 - n))

/-- The message padded to whole blocks. -/
def pad (msg : ByteArray) : ByteArray :=
  let len := msg.size
  let zeros := (119 - len % 64) % 64
  let lengthBytes := (List.range 8).map fun i => (len * 8 / Nat.pow 2 (8 * (7 - i)) % 256).toUInt8
  msg.push 0x80 ++ ⟨Array.replicate zeros 0⟩ ++ ⟨lengthBytes.toArray⟩

/-- The 64 schedule words of a block starting at an offset. -/
def schedule (data : ByteArray) (off : Nat) : Array UInt32 :=
  let first := (List.range 16).toArray.map fun i =>
    (List.range 4).foldl (fun (w : UInt32) k => (w <<< 8) ||| (data.get! (off + 4 * i + k)).toUInt32) 0
  (List.range 48).foldl (fun (w : Array UInt32) k =>
    let t := k + 16
    let x := w.getD (t - 15) 0
    let y := w.getD (t - 2) 0
    let s0 := rotr x 7 ^^^ rotr x 18 ^^^ (x >>> 3)
    let s1 := rotr y 17 ^^^ rotr y 19 ^^^ (y >>> 10)
    w.push (w.getD (t - 16) 0 + s0 + w.getD (t - 7) 0 + s1)) first

/-- Mixes one block into the hash words. -/
def compress (h : Array UInt32) (data : ByteArray) (off : Nat) : Array UInt32 :=
  let w := schedule data off
  let start := (h.getD 0 0, h.getD 1 0, h.getD 2 0, h.getD 3 0, h.getD 4 0, h.getD 5 0,
    h.getD 6 0, h.getD 7 0)
  let (a, b, c, d, e, f, g, hh) := (List.range 64).foldl (fun st i =>
    let (a, b, c, d, e, f, g, hh) := st
    let s1 := rotr e 6 ^^^ rotr e 11 ^^^ rotr e 25
    let ch := (e &&& f) ^^^ ((~~~e) &&& g)
    let t1 := hh + s1 + ch + roundConstants.getD i 0 + w.getD i 0
    let s0 := rotr a 2 ^^^ rotr a 13 ^^^ rotr a 22
    let maj := (a &&& b) ^^^ (a &&& c) ^^^ (b &&& c)
    let t2 := s0 + maj
    (t1 + t2, a, b, c, d + t1, e, f, g)) start
  #[h.getD 0 0 + a, h.getD 1 0 + b, h.getD 2 0 + c, h.getD 3 0 + d, h.getD 4 0 + e,
    h.getD 5 0 + f, h.getD 6 0 + g, h.getD 7 0 + hh]

/-- The digest of a message, as 32 bytes. -/
def digest (msg : ByteArray) : ByteArray :=
  let data := pad msg
  let h := (List.range (data.size / 64)).foldl (fun h k => compress h data (64 * k)) initial
  ⟨(h.toList.flatMap fun (word : UInt32) => (List.range 4).map fun (k : Nat) =>
    (word >>> ((8 * (3 - k)).toUInt32)).toUInt8).toArray⟩

/-- Lower-case hex of bytes. -/
def hex (bs : ByteArray) : String :=
  let digit (n : Nat) : Char := if n < 10 then Char.ofNat (48 + n) else Char.ofNat (87 + n)
  String.ofList (bs.toList.flatMap fun b => [digit (b.toNat / 16), digit (b.toNat % 16)])

end Theming.Picture.Sha256

namespace Theming.Picture

/-- The bytes of a canvas: red, green, blue and alpha of each pixel, row by row. -/
def Canvas.bytes (c : Canvas) : ByteArray :=
  c.pixels.foldl (fun bs p => bs.push p.r.toUInt8 |>.push p.g.toUInt8 |>.push p.b.toUInt8 |>.push p.a.toUInt8)
    ByteArray.empty

/-- The lower-case hex SHA-256 digest of a canvas's bytes. -/
def Canvas.digest (c : Canvas) : String := Sha256.hex (Sha256.digest c.bytes)

end Theming.Picture
