import Ledger.Text.Bytes
/-!
# Secret boxes

XSalsa20 and Poly1305 under a 32-byte key and a 24-byte nonce (the NaCl `secretbox`): the
box is the tag followed by the ciphertext, and opening checks the tag before decrypting.
-/

namespace Ledger.Crypto

/-- Rotation to the left. -/
@[inline] def rotl (x : UInt32) (n : UInt32) : UInt32 := (x <<< n) ||| (x >>> (32 - n))

/-- The little-endian word of four bytes. -/
def wordLE (a b c d : UInt8) : UInt32 :=
  a.toUInt32 ||| (b.toUInt32 <<< 8) ||| (c.toUInt32 <<< 16) ||| (d.toUInt32 <<< 24)

/-- The little-endian words of a byte string of a multiple of four bytes. -/
def wordsLE : List UInt8 → List UInt32
  | a :: b :: c :: d :: rest => wordLE a b c d :: wordsLE rest
  | _ => []

/-- The little-endian bytes of a word. -/
def bytesLE (x : UInt32) : List UInt8 :=
  [x.toUInt8, (x >>> 8).toUInt8, (x >>> 16).toUInt8, (x >>> 24).toUInt8]

/-- One quarter round on four positions of the state. -/
def quarter (s : Array UInt32) (a b c d : Nat) : Array UInt32 :=
  let s := s.set! b (s[b]! ^^^ rotl (s[a]! + s[d]!) 7)
  let s := s.set! c (s[c]! ^^^ rotl (s[b]! + s[a]!) 9)
  let s := s.set! d (s[d]! ^^^ rotl (s[c]! + s[b]!) 13)
  s.set! a (s[a]! ^^^ rotl (s[d]! + s[c]!) 18)

/-- One column round followed by one row round. -/
def doubleRound (s : Array UInt32) : Array UInt32 :=
  let s := quarter s 0 4 8 12
  let s := quarter s 5 9 13 1
  let s := quarter s 10 14 2 6
  let s := quarter s 15 3 7 11
  let s := quarter s 0 1 2 3
  let s := quarter s 5 6 7 4
  let s := quarter s 10 11 8 9
  quarter s 15 12 13 14

/-- Twenty rounds of the Salsa20 permutation. -/
def permute (s : Array UInt32) : Array UInt32 :=
  (List.range 10).foldl (fun s _ => doubleRound s) s

/-- The initial state from a key and sixteen bytes of input. -/
def initialState (key input : Bytes) : Array UInt32 :=
  let k := (wordsLE key).toArray
  let n := (wordsLE input).toArray
  #[0x61707865, k[0]!, k[1]!, k[2]!, k[3]!, 0x3320646e, n[0]!, n[1]!,
    n[2]!, n[3]!, 0x79622d32, k[4]!, k[5]!, k[6]!, k[7]!, 0x6b206574]

/-- A 64-byte block of the Salsa20 stream. -/
def salsaBlock (key input : Bytes) : Bytes :=
  let s := initialState key input
  let p := permute s
  ((List.range 16).map fun i => bytesLE (p[i]! + s[i]!)).flatten

/-- The subkey derived from a key and the first sixteen bytes of a nonce. -/
def hsalsa (key input : Bytes) : Bytes :=
  let p := permute (initialState key input)
  ([0, 5, 10, 15, 6, 7, 8, 9].map fun i => bytesLE p[i]!).flatten

/-- The eight little-endian bytes of a block counter. -/
def counterBytes (n : Nat) : Bytes := (List.range 8).map fun i => (n / Nat.pow 256 i % 256).toUInt8

/-- At least `n` bytes of the XSalsa20 key stream. -/
def keyStream (key nonce : Bytes) (n : Nat) : Bytes :=
  let sub := hsalsa key (nonce.take 16)
  let tail := nonce.drop 16
  ((List.range ((n + 63) / 64)).map fun i => salsaBlock sub (tail ++ counterBytes i)).flatten

/-- The little-endian number of a byte string. -/
def numberLE (bs : Bytes) : Nat := bs.foldr (fun b acc => acc * 256 + b.toNat) 0

/-- The prime `2 ^ 130 - 5`. -/
def polyPrime : Nat := Nat.pow 2 130 - 5

/-- The Poly1305 accumulation over sixteen-byte chunks. -/
def polyAccumulate (r : Nat) (acc : Nat) (msg : Bytes) : Nat :=
  if _h : msg = [] then acc
  else
    let chunk := msg.take 16
    let n := numberLE chunk + Nat.pow 2 (8 * chunk.length)
    polyAccumulate r ((acc + n) * r % polyPrime) (msg.drop 16)
  termination_by msg.length
  decreasing_by
    have : msg.length ≠ 0 := by simpa using _h
    simp; omega

/-- The Poly1305 tag of a message under a 32-byte one-time key. -/
def poly1305 (key msg : Bytes) : Bytes :=
  let r := numberLE (key.take 16) &&& 0x0ffffffc0ffffffc0ffffffc0fffffff
  let s := numberLE (key.drop 16)
  let tag := (polyAccumulate r 0 msg + s) % Nat.pow 2 128
  (List.range 16).map fun i => (tag / Nat.pow 256 i % 256).toUInt8

/-- The length a box adds to its message. -/
def boxOverhead : Nat := 16

/-- Seals a message: the tag followed by the ciphertext. -/
def sealBox (key nonce msg : Bytes) : Bytes :=
  let stream := keyStream key nonce (32 + msg.length)
  let cipher := List.zipWith (· ^^^ ·) msg (stream.drop 32)
  poly1305 (stream.take 32) cipher ++ cipher

/-- Opens a box, or fails when it is too short or its tag does not match. -/
def openBox (key nonce box : Bytes) : Option Bytes :=
  if box.length < boxOverhead then none
  else
    let tag := box.take 16
    let cipher := box.drop 16
    let stream := keyStream key nonce (32 + cipher.length)
    if poly1305 (stream.take 32) cipher == tag then
      some (List.zipWith (· ^^^ ·) cipher (stream.drop 32))
    else none

end Ledger.Crypto
