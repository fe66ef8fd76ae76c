/-!
# Integers of 64 bits

The database holds signed integers of 64 bits.
-/

namespace Tenancy

/-- Whether an integer fits into 64 bits. -/
def fits64 (n : Int) : Bool :=
  -0x8000000000000000 ≤ n && n < 0x8000000000000000

end Tenancy
