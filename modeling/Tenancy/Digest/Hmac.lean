import Tenancy.Digest.Sha256

/-!
# Keyed digests

The digest of a message under a key: the message is digested behind one mask of the key, and the
result behind another.
-/

namespace Tenancy.Hmac

/-- The number of octets of a block. -/
def blockSize : Nat := 64

/-- A key of the length of a block; a longer key is digested first. -/
def blockKey (key : List UInt8) : List UInt8 :=
  let key := if blockSize < key.length then Sha256.digest key else key
  key ++ List.replicate (blockSize - key.length) 0

/-- The digest of a message under a key. -/
def digest (key message : List UInt8) : List UInt8 :=
  let key := blockKey key
  let inner := Sha256.digest (key.map (· ^^^ 0x36) ++ message)
  Sha256.digest (key.map (· ^^^ 0x5c) ++ inner)

end Tenancy.Hmac
