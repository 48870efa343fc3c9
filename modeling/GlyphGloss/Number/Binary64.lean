/-!
# Binary floating-point numbers

A finite number is `mantissa * 2 ^ exponent` with a sign, where the mantissa has at most 53 bits
and the exponent is at least `-1074`; the mantissa has exactly 53 bits unless the exponent is
least, so that every number has one form. Reading a ratio rounds to the nearest number, and a tie
goes to the even mantissa.

## Main definitions

* `Binary64`: the numbers, with infinities and the value that is no number.
* `Binary64.ofRatio`, `Binary64.ofDecimal`: the nearest number.
* `Binary64.add`, `Binary64.mul`: the rounded sum and product.
* `Binary64.truncate`: the whole part.
-/

namespace GlyphGloss

/-- A binary floating-point number with 53 significant bits. -/
inductive Binary64 where
  /-- The number `mantissa * 2 ^ exponent` or its negative. -/
  | finite (negative : Bool) (mantissa : Nat) (exponent : Int)
  /-- A number too large to be finite. -/
  | infinite (negative : Bool)
  /-- The result of an operation without a value. -/
  | nan
deriving DecidableEq, Repr

namespace Binary64

/-- The least exponent. -/
def leastExponent : Int := -1074

/-- The greatest exponent. -/
def greatestExponent : Int := 971

/-- The quotient of two natural numbers rounded to the nearest, a tie to the even one. -/
def roundDiv (num den : Nat) : Nat :=
  let q := num / den
  let r := num % den
  if 2 * r > den ∨ (2 * r = den ∧ q % 2 = 1) then q + 1 else q

/-- The ratio `num / (den * 2 ^ exponent)` as a numerator and a denominator. -/
def scaled (num den : Nat) (exponent : Int) : Nat × Nat :=
  (num * Nat.pow 2 (-exponent).toNat, den * Nat.pow 2 exponent.toNat)

/-- The exponent at which the whole part of a positive ratio has 53 bits, or the least one. -/
def exponentOf (num den : Nat) : Int :=
  let guess : Int := (num.log2 : Int) - den.log2 - 53
  let (n, d) := scaled num den guess
  max leastExponent (if n / d < Nat.pow 2 53 then guess else guess + 1)

/-- The number nearest to `num / den`, negated if asked, for a positive `den`. -/
def ofRatio (negative : Bool) (num den : Nat) : Binary64 :=
  if num = 0 then .finite negative 0 leastExponent
  else
    let e := exponentOf num den
    let (n, d) := scaled num den e
    let m := roundDiv n d
    let (m, e) := if m = Nat.pow 2 53 then (Nat.pow 2 52, e + 1) else (m, e)
    if e > greatestExponent then .infinite negative else .finite negative m e

/-- The number nearest to `digits * 10 ^ exponent`. Beyond four hundred places the result is zero
or infinite, and the power is not formed. -/
def ofDecimal (negative : Bool) (digits : Nat) (exponent : Int) : Binary64 :=
  let places : Int := (Nat.toDigits 10 digits).length + exponent
  if digits = 0 ∨ places < -400 then .finite negative 0 leastExponent
  else if places > 400 then .infinite negative
  else ofRatio negative (digits * Nat.pow 10 exponent.toNat) (Nat.pow 10 (-exponent).toNat)

/-- The value of a finite number times `2 ^ 1074`, which is whole. -/
def units : Binary64 → Option Int
  | .finite negative m e =>
    let n : Int := m * Nat.pow 2 (e - leastExponent).toNat
    some (if negative then -n else n)
  | _ => none

/-- The number nearest to a whole multiple of the smallest positive number. -/
def ofUnits (n : Int) : Binary64 :=
  ofRatio (n < 0) n.natAbs (Nat.pow 2 1074)

/-- The rounded sum of two numbers that are not negative. -/
def add (x y : Binary64) : Binary64 :=
  match x.units, y.units with
  | some a, some b => ofUnits (a + b)
  | _, _ => .infinite false

/-- The rounded product of a number that is not negative and a positive number. -/
def mul : Binary64 → Binary64 → Binary64
  | .finite _ m e, .finite _ n f =>
    let (num, den) := scaled (m * n) 1 (-(e + f))
    ofRatio false num den
  | x, _ => x

/-- The negative of a number. -/
def neg : Binary64 → Binary64
  | .finite negative m e => .finite (!negative) m e
  | .infinite negative => .infinite (!negative)
  | .nan => .nan

/-- The whole part of a finite number, toward zero. -/
def truncate : Binary64 → Option Int
  | .finite negative m e =>
    let n : Int := (m * Nat.pow 2 e.toNat / Nat.pow 2 (-e).toNat : Nat)
    some (if negative then -n else n)
  | _ => none

/-- Whether a number is zero. -/
def isZero : Binary64 → Bool
  | .finite _ 0 _ => true
  | _ => false

/-- Whether a number has the value of a whole number. -/
def equalsInt (x : Binary64) (n : Int) : Bool :=
  x.units == some (n * Nat.pow 2 1074)

/-- Equality of keys: the two zeros are equal, and the value that is no number is one key. -/
def same (x y : Binary64) : Bool :=
  x == y || (x.isZero && y.isZero)

end Binary64

end GlyphGloss
