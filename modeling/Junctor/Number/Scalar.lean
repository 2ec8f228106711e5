import Junctor.Number.Binary

/-!
# Scalars

A scalar is an integer of any size or a float. Differences of integers are exact; as soon as
a float takes part, the integer is turned into the nearest float, if it is not beyond all of
them. The order is that of the exact values.

## Main results

* `Scalar.sub?`: the difference, which fails for an integer beyond the floats.
* `Scalar.le`: the order.
* `Scalar.sub?_whole`: the difference of integers never fails and is exact.
-/

namespace Junctor.Number

/-- A **number**: an integer of any size or a float, where the two are compared by their
exact values. -/
inductive Scalar where
  | whole (i : Int)
  | float (x : Float)

namespace Scalar

/-- The float nearest to an integer, infinite if there is none. -/
def floatOfInt (i : Int) : Float :=
  let x := nearestFloat i.natAbs 1
  if i < 0 then -x else x

/-- The float nearest to a scalar, infinite if there is none. -/
def toFloat : Scalar → Float
  | whole i => floatOfInt i
  | float x => x

/-- Is the scalar an integer beyond the floats? -/
def isBeyondFloats : Scalar → Bool
  | whole i => (floatOfInt i).isInf
  | float _ => false

/-- The difference of two scalars. -/
def sub : Scalar → Scalar → Scalar
  | whole i, whole j => whole (i - j)
  | a, b => float (a.toFloat - b.toFloat)

instance : Sub Scalar := ⟨sub⟩

/-- The difference of two scalars, unless an integer **beyond the floats** had to become
one. -/
def sub? : Scalar → Scalar → Option Scalar
  | whole i, whole j => some (whole (i - j))
  | a, b => if a.isBeyondFloats || b.isBeyondFloats then none else some (a - b)

/-- Is a float at most an integer? -/
def floatLe (x : Float) (i : Int) : Bool :=
  if x.isFinite then (Binary.ofFloat x).compareInt i != .gt else x < 0

/-- Is an integer at most a float? -/
def leFloat (i : Int) (x : Float) : Bool :=
  if x.isFinite then (Binary.ofFloat x).compareInt i != .lt else 0 < x

/-- Is the exact value of one scalar **at most** that of another? -/
def le : Scalar → Scalar → Bool
  | whole i, whole j => i ≤ j
  | float x, float y => x ≤ y
  | float x, whole j => floatLe x j
  | whole i, float y => leFloat i y

instance : LE Scalar := ⟨fun a b => a.le b = true⟩

instance : DecidableLE Scalar := fun a b => inferInstanceAs (Decidable (a.le b = true))

/-- The difference of integers never fails and is exact, which is where integers differ from
floats. -/
@[simp] theorem sub?_whole (i j : Int) : sub? (whole i) (whole j) = some (whole (i - j)) := rfl

end Scalar

end Junctor.Number
