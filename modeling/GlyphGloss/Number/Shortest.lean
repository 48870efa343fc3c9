import GlyphGloss.Number.Binary64
import GlyphGloss.Number.Decimal

/-!
# The shortest decimal form of a floating-point number

A floating-point number is printed with the fewest digits that read back as the same number, and
of the decimals with that many digits with the nearest one, a tie going to the even digit. The
number is positional when its decimal point stands at most three places before the first digit and
at most sixteen after it, and has an exponent of at least two digits otherwise.

## Main definitions

* `Binary64.Neighbourhood`: a positive number and the interval of ratios that round to it.
* `Binary64.shortest`: the digits and the place of the decimal point.
* `Binary64.text`: the printed form.
-/

namespace GlyphGloss.Binary64

/-- A positive number and the interval of ratios that round to it, over one denominator. -/
structure Neighbourhood where
  /-- The lower end. -/
  low : Nat
  /-- The number. -/
  value : Nat
  /-- The upper end. -/
  high : Nat
  /-- The common denominator. -/
  den : Nat
  /-- Whether the ends themselves round to the number. -/
  closed : Bool

/-- The interval around `mantissa * 2 ^ exponent`. Below a power of two the numbers lie twice as
close. -/
def neighbourhood (mantissa : Nat) (exponent : Int) : Neighbourhood :=
  let unit := Nat.pow 2 (exponent - 2).toNat
  let below := if mantissa = Nat.pow 2 52 ∧ exponent ≠ leastExponent then 1 else 2
  { low := (4 * mantissa - below) * unit
    value := 4 * mantissa * unit
    high := (4 * mantissa + 2) * unit
    den := Nat.pow 2 (2 - exponent).toNat
    closed := mantissa % 2 == 0 }

/-- The number of digits before the decimal point: the least `k` with `value < 10 ^ k`. -/
def pointPlace (value den : Nat) : Int :=
  let guess : Int := (Nat.toDigits 10 value).length - (Nat.toDigits 10 den).length
  if value * Nat.pow 10 (-guess).toNat < den * Nat.pow 10 guess.toNat then guess else guess + 1

/-- The multiple of `10 ^ place` nearest to the number among those in the interval, a tie going to
the even one. -/
def onGrid? (h : Neighbourhood) (place : Int) : Option Nat :=
  let step := h.den * Nat.pow 10 place.toNat
  let scale := Nat.pow 10 (-place).toNat
  let inside (d : Nat) : Bool :=
    if h.closed then h.low * scale ≤ d * step && d * step ≤ h.high * scale
    else h.low * scale < d * step && d * step < h.high * scale
  let down := h.value * scale / step
  let up := down + 1
  let rest := h.value * scale % step
  if 2 * rest > step ∨ (2 * rest = step ∧ down % 2 = 1) then
    if inside up then some up else if inside down then some down else none
  else
    if inside down then some down else if inside up then some up else none

/-- The fewest digits that read back as the positive number, without zeros at the end, and the
place of the decimal point relative to the first digit. -/
def shortest (mantissa : Nat) (exponent : Int) : Text × Int :=
  let h := neighbourhood mantissa exponent
  let k := pointPlace h.value h.den
  let places : List Int := (List.range 17).map fun (n : Nat) => k - (n + 1)
  let (digits, place) :=
    (places.findSome? fun place => (onGrid? h place).map fun d => (Text.ofNat d, place)).getD
      (Text.ofNat (h.value * Nat.pow 10 (17 - k).toNat / (h.den * Nat.pow 10 (k - 17).toNat)),
        k - 17)
  (Text.dropEndWhile (· == '0') digits, place + digits.length)

/-- The digits with the decimal point at a place. -/
def layout (digits : Text) (point : Int) : Text :=
  if -4 < point ∧ point ≤ 16 then
    if point ≤ 0 then
      '0' :: '.' :: List.replicate (-point).toNat '0' ++ digits
    else
      let whole := digits.take point.toNat
      let whole := whole ++ List.replicate (point.toNat - whole.length) '0'
      let part := digits.drop point.toNat
      whole ++ '.' :: (if part.isEmpty then ['0'] else part)
  else
    let power := Text.ofNat (point - 1).natAbs
    let power := List.replicate (2 - power.length) '0' ++ power
    let mark := if point ≤ 0 then '-' else '+'
    let part := digits.drop 1
    digits.take 1 ++ (if part.isEmpty then [] else '.' :: part) ++ 'e' :: mark :: power

/-- The printed form of a number. -/
def text : Binary64 → Text
  | .finite negative m e =>
    let body := if m = 0 then ['0', '.', '0'] else
      let (digits, point) := shortest m e
      layout digits point
    if negative then '-' :: body else body
  | .infinite negative => if negative then "-inf".toList else "inf".toList
  | .nan => "nan".toList

end GlyphGloss.Binary64
