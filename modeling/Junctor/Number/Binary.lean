/-!
# Exact Values of Floats

A finite float is an integer times a power of two. `Binary` holds that value, so that parts
of a float, comparisons with integers of any size and decimal digits are found in exact
arithmetic.

## Main results

* `Binary.ofFloat`: the value of a finite float.
* `Binary.truncate`: its integral part; `Binary.compareInt`: its place beside an integer.
* `roundHalfEven`: a quotient rounded to the nearest integer, a half to the even one.
* `nearestFloat`: a quotient rounded to the nearest float.
-/

namespace Junctor.Number

/-- A power of integers is the repeated product, also where other notions of power are at
hand. -/
@[default_instance high]
instance (priority := high) integralPower {α : Type} [NatPow α] : Pow α Nat := instPowNat

/-- The **value** of a finite float: the mantissa times the power of two, with a sign. -/
structure Binary where
  /-- Does the value stand below zero, or is it a negative zero? -/
  negative : Bool
  /-- The integer that the power of two multiplies. -/
  mantissa : Nat
  /-- The exponent of the power of two. -/
  exponent : Int

namespace Binary

/-- The value of the finite float `x`, read from its **bit fields**: the lowest exponent field
stands for the numbers without a leading one. -/
def ofFloat (x : Float) : Binary :=
  let bits := x.toBits.toNat
  let field := bits / 2 ^ 52 % 2048
  let fraction := bits % 2 ^ 52
  { negative := bits / 2 ^ 63 == 1
    mantissa := if field = 0 then fraction else fraction + 2 ^ 52
    exponent := (max field 1 : Nat) - (1075 : Int) }

/-- The value as a fraction of natural numbers, without its sign. -/
def fraction (v : Binary) : Nat × Nat :=
  (v.mantissa * 2 ^ v.exponent.toNat, 2 ^ (-v.exponent).toNat)

/-- A natural number with the sign of `v`. -/
def signed (v : Binary) (n : Nat) : Int := if v.negative then -n else n

/-- The **integral part**, cut off toward zero. -/
def truncate (v : Binary) : Int := v.signed (v.fraction.1 / v.fraction.2)

/-- Where the value stands **beside the integer** `i`. -/
def compareInt (v : Binary) (i : Int) : Ordering :=
  compare (v.signed v.fraction.1) (i * v.fraction.2)

end Binary

/-- The quotient of `num` by `den` **rounded** to the nearest integer, a half to the even
one. -/
def roundHalfEven (num den : Nat) : Nat :=
  let quotient := num / den
  match compare (2 * (num % den)) den with
  | .lt => quotient
  | .gt => quotient + 1
  | .eq => quotient + quotient % 2

/-- The exponent at which a positive quotient has a mantissa of 53 bits, or the least exponent
that floats have. -/
def exponentFor (num den : Nat) : Int :=
  let e : Int := num.log2 - den.log2 - 53
  max (if den * 2 ^ 53 * 2 ^ e.toNat ≤ num * 2 ^ (-e).toNat then e + 1 else e) (-1074)

/-- The float **nearest** to the quotient of `num` by `den`, the one with the even mantissa
if there are two; infinite beyond the greatest float. -/
def nearestFloat (num den : Nat) : Float :=
  if num = 0 then 0
  else
    let e := exponentFor num den
    let mantissa := roundHalfEven (num * 2 ^ (-e).toNat) (den * 2 ^ e.toNat)
    let bits := (e + 1075).toNat * 2 ^ 52 + mantissa - 2 ^ 52
    Float.ofBits (UInt64.ofNat (min bits (2047 * 2 ^ 52)))

end Junctor.Number
