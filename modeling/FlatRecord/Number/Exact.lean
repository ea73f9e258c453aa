import FlatRecord.Number.Decimal

/-!
# Exact values of numbers

Integers, double precision numbers and decimal numbers are compared by value. Each has one exact
form, a coefficient that is not divisible by ten and a power of ten, so equality of value is
equality of exact forms. The hash code of a number depends on its exact form only.
-/

namespace FlatRecord.Number

/-- The exact value of a number of any type. -/
inductive Exact where
  | nan
  | infinite (negative : Bool)
  | finite (negative : Bool) (coefficient : Nat) (exponent : Int)
  deriving DecidableEq, Repr

namespace Exact

/-- The exact form of a signed multiple of a power of ten. -/
def make (negative : Bool) (coefficient : Nat) (exponent : Int) : Exact :=
  if coefficient = 0 then .finite false 0 0
  else
    let (c, e) := Decimal.normalize (coefficient.log2 + 1) coefficient exponent
    .finite negative c e

/-- The exact value of an integer. -/
def ofInt (n : Int) : Exact := make (n < 0) n.natAbs 0

/-- The exact value of a double precision number. -/
def ofFloat : Binary64 → Exact
  | .nan => .nan
  | .infinite negative => .infinite negative
  | .finite negative m e _ =>
    if e < 0 then make negative (m * Nat.pow 5 e.natAbs) e else make negative (m * Nat.pow 2 e.natAbs) 0

/-- The exact value of a decimal number. -/
def ofDecimal : Decimal → Exact
  | .nan .. => .nan
  | .infinite negative => .infinite negative
  | .finite negative coefficient exponent => make negative coefficient exponent

/-- Equality of value. A non-number equals nothing. -/
def agrees : Exact → Exact → Bool
  | .nan, _ => false
  | _, .nan => false
  | a, b => a = b

/-- Whether one finite value is less than another, for values with exponents near each other. -/
def natLess (c : Nat) (e : Int) (c' : Nat) (e' : Int) : Bool :=
  if e ≤ e' then c < c' * Nat.pow 10 (e' - e).natAbs else c * Nat.pow 10 (e - e').natAbs < c'

/-- Order of the absolute values of two finite values; powers of ten are only expanded where the
magnitudes are close. -/
def magnitudeLess (c : Nat) (e : Int) (c' : Nat) (e' : Int) : Bool :=
  if c' = 0 then false
  else if c = 0 then true
  else
    let top := e + (naturalText c).length
    let top' := e' + (naturalText c').length
    if top = top' then natLess c e c' e' else top < top'

/-- Strict order of value; a non-number is less than nothing and greater than nothing. -/
def less : Exact → Exact → Bool
  | .nan, _ => false
  | _, .nan => false
  | .infinite n, .infinite n' => n && !n'
  | .infinite n, .finite .. => n
  | .finite .., .infinite n => !n
  | .finite n c e, .finite n' c' e' =>
    match n, n' with
    | false, false => magnitudeLess c e c' e'
    | true, true => magnitudeLess c' e' c e
    | true, false => true
    | false, true => false

/-- The modulus of the hash codes of numbers. -/
def hashModulus : Nat := Nat.pow 2 61 - 1

/-- A power modulo the hash modulus, by repeated squaring. -/
def powMod (fuel base exponent : Nat) : Nat :=
  match fuel with
  | 0 => 1
  | fuel + 1 =>
    if exponent = 0 then 1
    else
      let half := powMod fuel (base * base % hashModulus) (exponent / 2)
      if exponent % 2 = 1 then base * half % hashModulus else half

/-- The hash code of a value: the residue of the exact ratio, with the sign of the value. The code
`-1` is not used. A non-number has none. -/
def hashCode? : Exact → Option Int
  | .nan => none
  | .infinite negative => some (if negative then -314159 else 314159)
  | .finite negative coefficient exponent =>
    let ten := if exponent < 0 then powMod 64 10 (hashModulus - 2) else 10
    let n := coefficient % hashModulus * powMod 80 ten exponent.natAbs % hashModulus
    let code : Int := if negative then -(n : Int) else n
    some (if code = -1 then -2 else code)

end Exact

end FlatRecord.Number
