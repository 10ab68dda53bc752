import Ledger.Text.Bytes
import Ledger.Crypto.Base64
import Ledger.Crypto.SecretBox
/-!
# Sealed secrets

`sealed:` and the base64 of a nonce and the secret box of a secret under a 32-byte key,
given as 64 hex digits. Opening checks each layer in order.
-/

namespace Ledger

/-- A 32-byte sealing key. -/
structure SealKey where
  bytes : Bytes
  deriving Repr

/-- The marker that starts a sealed value. -/
def sealedPrefix : String := "sealed:"

/-- The length of a nonce. -/
def nonceLength : Nat := 24

namespace SealKey

/-- Reads a key from hex text. -/
def parse (hex : String) : Except String SealKey :=
  match Crypto.hexDecode (Bytes.ofString hex).trimBlank with
  | .error e => .error ("failed to decode key: " ++ e)
  | .ok raw =>
    if raw.length = 32 then .ok ⟨raw⟩
    else .error ("encryption key must be 32 bytes, got " ++ toString raw.length)

end SealKey

/-- Whether a value is sealed. -/
def isSealed (s : String) : Bool := s.startsWith sealedPrefix

/-- Seals a secret with the given nonce. An empty secret cannot be sealed. -/
def sealSecret (key : SealKey) (nonce : Bytes) (plain : String) : Except String String :=
  if plain.isEmpty then .error "input data is empty"
  else
    let box := Crypto.sealBox key.bytes nonce (Bytes.ofString plain)
    .ok (sealedPrefix ++ Crypto.base64Encode (nonce ++ box))

/-- Opens a sealed value. -/
def openSecret (key : SealKey) (sealed : String) : Except String Bytes :=
  if !isSealed sealed then .error "value is not sealed"
  else
    match Crypto.base64Decode (Bytes.ofString (sealed.drop sealedPrefix.length).toString) with
    | .error e => .error ("failed to decode sealed value: " ++ e.message)
    | .ok raw =>
      if raw.length < nonceLength + Crypto.boxOverhead then
        .error ("sealed value too short: " ++ toString raw.length ++ " bytes")
      else
        match Crypto.openBox key.bytes (raw.take nonceLength) (raw.drop nonceLength) with
        | some plain => .ok plain
        | none => .error "failed to open sealed value"

end Ledger
