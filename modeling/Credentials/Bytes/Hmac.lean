import Credentials.Bytes.Sha256

/-!
# HMAC-SHA256

The keyed hash of RFC 2104 over SHA-256, whose blocks have sixty-four bytes.
-/

namespace Credentials.Bytes

/-- The secret as one block: a secret longer than a block is hashed first, and
zeros fill it up. -/
def hmacBlock (secret : List UInt8) : List UInt8 :=
  let short := if secret.length ≤ 64 then secret else sha256 secret
  short ++ List.replicate (64 - short.length) 0

/-- The HMAC-SHA256 code of a message under a secret: thirty-two bytes. -/
def hmac (secret message : List UInt8) : List UInt8 :=
  let block := hmacBlock secret
  let inner := sha256 (block.map (· ^^^ 0x36) ++ message)
  sha256 (block.map (· ^^^ 0x5C) ++ inner)

end Credentials.Bytes
