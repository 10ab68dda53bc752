import Ledger.Text.Quoted
/-!
# Base64 and hex text

Standard base64, skipping line breaks and reporting the offset of the first byte it cannot
accept; hex text two digits a byte, in either case.
-/

namespace Ledger.Crypto

/-- The base64 alphabet. -/
def alphabet : Array Char :=
  "ABCDEFGHIJKLMNOPQRSTUVWXYZabcdefghijklmnopqrstuvwxyz0123456789+/".toList.toArray

/-- Encodes one group of up to three bytes. -/
def encodeGroup (g : List UInt8) : String :=
  let n := g.foldl (fun acc b => acc * 256 + b.toNat) 0 * Nat.pow 256 (3 - g.length)
  let sym (i : Nat) : Char := alphabet[(n / Nat.pow 64 (3 - i)) % 64]!
  match g.length with
  | 1 => String.ofList [sym 0, sym 1, '=', '=']
  | 2 => String.ofList [sym 0, sym 1, sym 2, '=']
  | _ => String.ofList [sym 0, sym 1, sym 2, sym 3]

/-- Splits a byte string into groups of three. -/
def groupsOfThree (bs : Bytes) : List (List UInt8) :=
  go bs []
where
  /-- The groups with an accumulator, newest first. -/
  go (bs : Bytes) (acc : List (List UInt8)) : List (List UInt8) :=
    if _h : bs = [] then acc.reverse
    else go (bs.drop 3) (bs.take 3 :: acc)
  termination_by bs.length
  decreasing_by
    have : bs.length ≠ 0 := by simpa using _h
    simp; omega

/-- The base64 text of a byte string. -/
def base64Encode (bs : Bytes) : String := String.join ((groupsOfThree bs).map encodeGroup)

/-- The value of a base64 symbol. -/
def symbolValue (b : UInt8) : Option Nat :=
  let n := b.toNat
  if 65 ≤ n && n ≤ 90 then some (n - 65)
  else if 97 ≤ n && n ≤ 122 then some (n - 71)
  else if 48 ≤ n && n ≤ 57 then some (n + 4)
  else if n == 43 then some 62
  else if n == 47 then some 63
  else none

/-- Whether a byte is a line end, which decoding skips. -/
def isLineEnd (b : UInt8) : Bool := b == 10 || b == 13

/-- The offset at which decoding fails. -/
structure Base64Error where
  offset : Nat
  deriving Repr

/-- The message of a decoding failure. -/
def Base64Error.message (e : Base64Error) : String :=
  "illegal base64 data at input byte " ++ toString e.offset

/-- The first index from `i` that is not a line end. -/
def skipLineEnds (src : Array UInt8) (i : Nat) : Nat :=
  if h : i < src.size then
    if isLineEnd src[i] then skipLineEnds src (i + 1) else i
  else i
  termination_by src.size - i

theorem le_skipLineEnds (src : Array UInt8) (i : Nat) : i ≤ skipLineEnds src i := by
  unfold skipLineEnds
  split
  · split
    · have := le_skipLineEnds src (i + 1); omega
    · omega
  · omega
  termination_by src.size - i

/-- The result of reading one group: the index after it, the decoded bytes, and
whether reading must stop, with an error or at the end. -/
structure Quantum where
  next : Nat
  out : List UInt8
  stop : Option (Option Base64Error)

/-- The bytes of `j` symbols (2, 3 or 4) of a group. -/
def groupBytes (vals : List Nat) : List UInt8 :=
  let v := (vals ++ List.replicate (4 - vals.length) 0).foldl (fun a x => a * 64 + x) 0
  let bytes := [(v / 65536 % 256).toUInt8, (v / 256 % 256).toUInt8, (v % 256).toUInt8]
  bytes.take (vals.length - 1)

/-- Reads one group of four symbols starting at `si`, collecting symbol values in
`vals`; `fuel` bounds the bytes examined. -/
def readQuantum (src : Array UInt8) (fuel : Nat) (si : Nat) (vals : List Nat) : Quantum :=
  match fuel with
  | 0 => ⟨si, [], some none⟩
  | fuel + 1 =>
    let j := vals.length
    if j = 4 then ⟨si, groupBytes vals, none⟩
    else if h : si < src.size then
      let c := src[si]
      match symbolValue c with
      | some v => readQuantum src fuel (si + 1) (vals ++ [v])
      | none =>
        if isLineEnd c then readQuantum src fuel (si + 1) vals
        else if c != 61 then ⟨si + 1, [], some (some ⟨si⟩)⟩
        else if j < 2 then ⟨si + 1, [], some (some ⟨si⟩)⟩
        else
          let si1 := si + 1
          let padded : Except Base64Error Nat :=
            if j = 2 then
              let k := skipLineEnds src si1
              if k = src.size then .error ⟨src.size⟩
              else if src[k]! != 61 then .error ⟨k - 1⟩
              else .ok (k + 1)
            else .ok si1
          match padded with
          | .error e => ⟨si1, [], some (some e)⟩
          | .ok k =>
            let k := skipLineEnds src k
            let trailing := if k < src.size then some (some ⟨k⟩) else some none
            ⟨k, groupBytes vals, trailing⟩
    else
      if j = 0 then ⟨si, [], some none⟩
      else ⟨si, [], some (some ⟨si - j⟩)⟩

/-- Decodes every group in turn. -/
def decodeGroups (src : Array UInt8) (fuel : Nat) (si : Nat) (acc : List (List UInt8)) :
    Except Base64Error Bytes :=
  match fuel with
  | 0 => .ok acc.reverse.flatten
  | fuel + 1 =>
    if si < src.size then
      let q := readQuantum src (src.size + 1) si []
      match q.stop with
      | some (some e) => .error e
      | some none => .ok (q.out :: acc).reverse.flatten
      | none => decodeGroups src fuel q.next (q.out :: acc)
    else .ok acc.reverse.flatten

/-- Decodes standard base64 text. -/
def base64Decode (s : Bytes) : Except Base64Error Bytes :=
  let src := s.toArray
  decodeGroups src (src.size + 1) 0 []

/-- The value of a hex digit. -/
def hexDigitValue (b : UInt8) : Option Nat :=
  let n := b.toNat
  if 48 ≤ n && n ≤ 57 then some (n - 48)
  else if 97 ≤ n && n ≤ 102 then some (n - 87)
  else if 65 ≤ n && n ≤ 70 then some (n - 55)
  else none

/-- The message of a byte that is not a hex digit. -/
def invalidHexByte (b : UInt8) : String :=
  "encoding/hex: invalid byte: " ++ Text.codePointName b.toNat

/-- Decodes hex text. -/
def hexDecode : Bytes → Except String Bytes
  | [] => .ok []
  | [a] => match hexDigitValue a with
    | some _ => .error "encoding/hex: odd length hex string"
    | none => .error (invalidHexByte a)
  | a :: b :: rest =>
    match hexDigitValue a, hexDigitValue b with
    | some x, some y => (hexDecode rest).map ((x * 16 + y).toUInt8 :: ·)
    | none, _ => .error (invalidHexByte a)
    | _, none => .error (invalidHexByte b)

end Ledger.Crypto
