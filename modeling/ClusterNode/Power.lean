/-!
Powers of the two bases in which numbers are kept and written.
-/

set_option autoImplicit false

namespace ClusterNode

/-- A power of two. It is spelled out because `2 ^ n` means another function where monoids are in
scope. -/
abbrev twoTo (exponent : Nat) : Nat := Nat.pow 2 exponent

abbrev tenTo (exponent : Nat) : Nat := Nat.pow 10 exponent

end ClusterNode
