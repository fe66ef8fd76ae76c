import Tenancy.Digest.Sha256
import Tenancy.Text.Hex
import Tenancy.Text.Utf8

/-!
# Passwords

A password is kept as the digest of the salt and the password with a colon between them.
-/

namespace Tenancy

/-- Whether a text can be set as the salt: the character with code zero cannot stand in it. -/
def isSalt (salt : String) : Bool :=
  !salt.toList.contains (Char.ofNat 0)

/-- The hexadecimal digest that is kept of a password. -/
def passwordHash (salt password : String) : String :=
  String.ofList (Text.hexOctets (Sha256.digest
    (Text.Utf8.encode (salt.toList ++ ':' :: password.toList))))

end Tenancy
