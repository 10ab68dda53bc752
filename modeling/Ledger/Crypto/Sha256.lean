import Ledger.Text.Bytes
/-!
# SHA-256 and HMAC-SHA256

The SHA-256 digest (FIPS 180-4) of a byte string, and the keyed HMAC construction
over it (RFC 2104): a key longer than a block is first hashed, then padded with zeros
to one block, and the digest is taken twice, with the key XORed by `0x36` inside and
by `0x5c` outside.
-/

namespace Ledger.Crypto

/-- The round constants. -/
def roundConstants : Array UInt32 := #[
  0x428a2f98, 0x71374491, 0xb5c0fbcf, 0xe9b5dba5, 0x3956c25b, 0x59f111f1, 0x923f82a4, 0xab1c5ed5,
  0xd807aa98, 0x12835b01, 0x243185be, 0x550c7dc3, 0x72be5d74, 0x80deb1fe, 0x9bdc06a7, 0xc19bf174,
  0xe49b69c1, 0xefbe4786, 0x0fc19dc6, 0x240ca1cc, 0x2de92c6f, 0x4a7484aa, 0x5cb0a9dc, 0x76f988da,
  0x983e5152, 0xa831c66d, 0xb00327c8, 0xbf597fc7, 0xc6e00bf3, 0xd5a79147, 0x06ca6351, 0x14292967,
  0x27b70a85, 0x2e1b2138, 0x4d2c6dfc, 0x53380d13, 0x650a7354, 0x766a0abb, 0x81c2c92e, 0x92722c85,
  0xa2bfe8a1, 0xa81a664b, 0xc24b8b70, 0xc76c51a3, 0xd192e819, 0xd6990624, 0xf40e3585, 0x106aa070,
  0x19a4c116, 0x1e376c08, 0x2748774c, 0x34b0bcb5, 0x391c0cb3, 0x4ed8aa4a, 0x5b9cca4f, 0x682e6ff3,
  0x748f82ee, 0x78a5636f, 0x84c87814, 0x8cc70208, 0x90befffa, 0xa4506ceb, 0xbef9a3f7, 0xc67178f2]

/-- The initial hash value. -/
def initialHash : Array UInt32 :=
  #[0x6a09e667, 0xbb67ae85, 0x3c6ef372, 0xa54ff53a, 0x510e527f, 0x9b05688c, 0x1f83d9ab, 0x5be0cd19]

/-- Rotation to the right. -/
@[inline] def rotr (x : UInt32) (n : UInt32) : UInt32 := (x >>> n) ||| (x <<< (32 - n))

/-- The big-endian word of four bytes. -/
def wordBE (a b c d : UInt8) : UInt32 :=
  (a.toUInt32 <<< 24) ||| (b.toUInt32 <<< 16) ||| (c.toUInt32 <<< 8) ||| d.toUInt32

/-- The sixteen big-endian words of a 64-byte block. -/
def blockWords : List UInt8 → List UInt32
  | a :: b :: c :: d :: rest => wordBE a b c d :: blockWords rest
  | _ => []

/-- The message schedule of a block. -/
def schedule (block : List UInt8) : Array UInt32 :=
  (List.range 48).foldl (fun w i =>
    let t := i + 16
    let w15 := w[t - 15]!
    let w2 := w[t - 2]!
    let s0 := rotr w15 7 ^^^ rotr w15 18 ^^^ (w15 >>> 3)
    let s1 := rotr w2 17 ^^^ rotr w2 19 ^^^ (w2 >>> 10)
    w.push (w[t - 16]! + s0 + w[t - 7]! + s1)) (blockWords block).toArray

/-- One compression of a 64-byte block into the hash state. -/
def compress (h : Array UInt32) (block : List UInt8) : Array UInt32 :=
  let w := schedule block
  let init := (h[0]!, h[1]!, h[2]!, h[3]!, h[4]!, h[5]!, h[6]!, h[7]!)
  let (a, b, c, d, e, f, g, hh) := (List.range 64).foldl (fun (a, b, c, d, e, f, g, hh) i =>
    let s1 := rotr e 6 ^^^ rotr e 11 ^^^ rotr e 25
    let ch := (e &&& f) ^^^ ((~~~e) &&& g)
    let t1 := hh + s1 + ch + roundConstants[i]! + w[i]!
    let s0 := rotr a 2 ^^^ rotr a 13 ^^^ rotr a 22
    let maj := (a &&& b) ^^^ (a &&& c) ^^^ (b &&& c)
    let t2 := s0 + maj
    (t1 + t2, a, b, c, d + t1, e, f, g)) init
  #[h[0]! + a, h[1]! + b, h[2]! + c, h[3]! + d, h[4]! + e, h[5]! + f, h[6]! + g, h[7]! + hh]

/-- Compresses the first `n` blocks of the input in turn. -/
def compressBlocks (h : Array UInt32) : Nat → List UInt8 → Array UInt32
  | 0, _ => h
  | n + 1, bs => compressBlocks (compress h (bs.take 64)) n (bs.drop 64)

/-- Compresses every whole block of the input in turn. -/
def compressAll (h : Array UInt32) (bs : List UInt8) : Array UInt32 :=
  compressBlocks h (bs.length / 64) bs

/-- The big-endian bytes of a word. -/
def wordBytes (x : UInt32) : List UInt8 :=
  [(x >>> 24).toUInt8, (x >>> 16).toUInt8, (x >>> 8).toUInt8, x.toUInt8]

/-- The padding after a message of `n` bytes: `0x80`, zeros, and the bit length. -/
def padding (n : Nat) : List UInt8 :=
  let zeros := (119 - n % 64) % 64
  let bits := n * 8
  [0x80] ++ List.replicate zeros 0 ++ (List.range 8).reverse.map fun i => (bits / Nat.pow 256 i % 256).toUInt8

/-- The SHA-256 digest. -/
def sha256 (msg : Bytes) : Bytes :=
  ((compressAll initialHash (msg ++ padding msg.length)).toList.map wordBytes).flatten

/-- The HMAC-SHA256 of a message under a key. -/
def hmacSha256 (key msg : Bytes) : Bytes :=
  let k := if key.length > 64 then sha256 key else key
  let k := k ++ List.replicate (64 - k.length) 0
  let inner := sha256 (k.map (· ^^^ 0x36) ++ msg)
  sha256 (k.map (· ^^^ 0x5c) ++ inner)

end Ledger.Crypto
