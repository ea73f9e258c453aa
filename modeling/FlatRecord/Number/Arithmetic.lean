import FlatRecord.Number.Binary64

/-!
# Sums and products of double precision numbers

A sum or a product is the number nearest to the exact one. A sum of zeros is negative only if both are,
and the sign of a product is negative if one of its factors is.
-/

namespace FlatRecord.Number.Binary64

/-- The number nearest to an integer times a power of two, which is not zero. -/
def ofDyadic (n : Int) (exponent : Int) : Binary64 :=
  if exponent < 0 then ofRatio (n < 0) n.natAbs (Nat.pow 2 exponent.natAbs)
  else ofRatio (n < 0) (n.natAbs * Nat.pow 2 exponent.natAbs) 1

/-- A significand with its sign, times two to the distance of its exponent from a lower one. -/
def aligned (negative : Bool) (m : Nat) (exponent lower : Int) : Int :=
  let n : Int := m * Nat.pow 2 (exponent - lower).natAbs
  if negative then -n else n

/-- The sum of two numbers. -/
def add : Binary64 → Binary64 → Binary64
  | .nan, _ => .nan
  | _, .nan => .nan
  | .infinite a, .infinite b => if a = b then .infinite a else .nan
  | .infinite a, .finite .. => .infinite a
  | .finite .., .infinite b => .infinite b
  | .finite a m e _, .finite b n f _ =>
    let lower := min e f
    let total := aligned a m e lower + aligned b n f lower
    if total = 0 then zero (a && b) else ofDyadic total lower

/-- The product of two numbers. -/
def mul : Binary64 → Binary64 → Binary64
  | .nan, _ => .nan
  | _, .nan => .nan
  | .infinite a, .infinite b => .infinite (a != b)
  | .infinite a, .finite b n _ _ => if n = 0 then .nan else .infinite (a != b)
  | .finite a m _ _, .infinite b => if m = 0 then .nan else .infinite (a != b)
  | .finite a m e _, .finite b n f _ =>
    let total : Int := m * n
    if total = 0 then zero (a != b)
    else ofDyadic (if a != b then -total else total) (e + f)

end FlatRecord.Number.Binary64
