/-!
# Decimal numbers

A decimal number is kept as a *significand* of 64 bits and a power of ten. The significand gathers
the digits from the front, as long as it does not leave its bits; the digits left over before the
point count by their number alone, and those behind the point not at all. The floating-point number
that stands for it is the product of two roundings, that of the significand and that of the power of
ten, and a number is *in range* when this product is finite.

## Main definitions

* `Clearance.Numeral` — decimal numbers.
* `Clearance.Numeral.ofDigits` — the number that digits before and behind a point make.
* `Clearance.Numeral.roundBits` — the nearest number of 53 significant bits.
* `Clearance.Numeral.inRange` — which numbers stand for a floating-point number.
-/

namespace Clearance

/-- A decimal number. -/
structure Numeral where
  /-- Whether there is a minus sign. -/
  negative : Bool
  /-- Whether there is neither a fraction nor an exponent. -/
  whole : Bool
  /-- The number that the gathered digits make without the point. -/
  significand : Nat
  /-- The power of ten to multiply it with. -/
  exponent : Int
deriving DecidableEq, Repr

namespace Numeral

/-- The digits in front that a significand gathers: the number that they make behind the ones it has
already, and the digits left over. -/
def gather (significand : Nat) : List Char → Nat × List Char
  | [] => (significand, [])
  | c :: cs =>
    let longer := 10 * significand + (c.toNat - '0'.toNat)
    if longer < 1 <<< 64 then gather longer cs else (significand, c :: cs)

/-- The number with given digits before and behind the point, and with an exponent if one is
written. -/
def ofDigits (negative : Bool) (before behind : List Char) (exponent? : Option Int) : Numeral :=
  let (front, left) := gather 0 before
  let (significand, dropped) := gather front behind
  { negative
    whole := behind.isEmpty && exponent?.isNone
    significand
    exponent := exponent?.getD 0 + left.length - (behind.length - dropped.length) }

/-- The nearest number of 53 significant bits. A number halfway between two goes to the even one. -/
def roundBits (n : Nat) : Nat :=
  let unit := 1 <<< (n.log2 - 52)
  let up := unit < 2 * (n % unit) || (2 * (n % unit) = unit && n / unit % 2 = 1)
  (n / unit + if up then 1 else 0) * unit

/-- The least number that is rounded to infinity. -/
def overflowBound : Nat := 1 <<< 1024 - 1 <<< 970

/-- Whether a number stands for a floating-point number. -/
def inRange (n : Numeral) : Bool :=
  match n.exponent with
  | .ofNat e =>
    n.significand = 0 ||
      (e < 309 && roundBits n.significand * roundBits (Nat.pow 10 e) < overflowBound)
  | .negSucc _ => true

/-- The integer that a number without fraction and exponent is. A zero with a minus sign is none,
and neither is a number with digits left over. -/
def integer? (n : Numeral) : Option Int :=
  if n.whole && n.exponent = 0 && !(n.negative && n.significand = 0) then
    some (if n.negative then -n.significand else n.significand)
  else none

end Numeral

end Clearance
