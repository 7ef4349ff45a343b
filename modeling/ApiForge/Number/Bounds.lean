/-
# ApiForge.Number.Bounds -- powers and the ranges of machine numbers

Untyped values come from formats that know whole numbers of 64 bits and, where they are
read, of 128 bits.  The bounds stand here as numbers.
-/

namespace ApiForge

set_option autoImplicit false

/-- A power of two. -/
def twoTo (n : Nat) : Nat := Nat.pow 2 n

/-- A power of ten. -/
def tenTo (n : Nat) : Nat := Nat.pow 10 n

def minInt64 : Int := -9223372036854775808

def maxInt64 : Int := 9223372036854775807

def maxUInt64 : Int := 18446744073709551615

def minInt128 : Int := -170141183460469231731687303715884105728

def maxUInt128 : Int := 340282366920938463463374607431768211455

end ApiForge
