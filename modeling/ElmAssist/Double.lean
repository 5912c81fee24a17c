/-
  Double-precision numbers, exactly.

  A `Double` is a natural number of at most 53 bits times a power of two; negative
  ones are not needed.  `ofFraction?` rounds to the nearest one, a tie going to the
  even significand, and fails where the result would be infinite.  `shortest` is
  the decimal with the fewest digits that lies closer to a number than to its
  neighbours.
-/
import ElmAssist.Ratio

namespace ElmAssist

open Ratio

/-- The number `significand · 2 ^ exponent`. -/
structure Double where
  significand : Nat
  exponent : Int
  deriving DecidableEq, Repr

namespace Double

/-- The number of bits of a significand. -/
def precision : Nat := 53

/-- The least exponent. -/
def minExponent : Int := -1074

/-- The greatest exponent. -/
def maxExponent : Int := 971

/-- Zero. -/
def zero : Double := ⟨0, minExponent⟩

/-- Whether the number is zero. -/
def isZero (d : Double) : Bool :=
  d.significand == 0

/-- The exponent of the greatest power of two that is not above a fraction other
    than zero. -/
def floorLog2 (f : Fraction) : Int :=
  let guess : Int := (bits f.num : Int) - bits f.den
  if f.den * Nat.pow 2 guess.toNat ≤ f.num * Nat.pow 2 (-guess).toNat then guess else guess - 1

/-- The double nearest to a fraction; `none` if it is out of range. -/
def ofFraction? (f : Fraction) : Option Double :=
  if f.num = 0 then some zero
  else
    let exponent := max (floorLog2 f - (precision - 1)) minExponent
    let significand := roundDiv (f.num * Nat.pow 2 (-exponent).toNat)
      (f.den * Nat.pow 2 exponent.toNat)
    let d : Double :=
      if significand = Nat.pow 2 precision then ⟨Nat.pow 2 (precision - 1), exponent + 1⟩
      else ⟨significand, exponent⟩
    if maxExponent < d.exponent then none else some d

/-- The exact value. -/
def toFraction (d : Double) : Fraction :=
  ⟨d.significand * Nat.pow 2 d.exponent.toNat, Nat.pow 2 (-d.exponent).toNat⟩

/-- The product, rounded. -/
def mul? (a b : Double) : Option Double :=
  ofFraction? ⟨a.toFraction.num * b.toFraction.num, a.toFraction.den * b.toFraction.den⟩

/-- The quotient, rounded. -/
def div? (a b : Double) : Option Double :=
  ofFraction? ⟨a.toFraction.num * b.toFraction.den, a.toFraction.den * b.toFraction.num⟩

/-- The double nearest to a power of ten. -/
def powerOfTen? (n : Nat) : Option Double :=
  ofFraction? ⟨Nat.pow 10 n, 1⟩

/-! ## Shortest decimals -/

/-- A decimal `digits · 10 ^ exponent`. -/
structure Decimal where
  digits : Nat
  exponent : Int
  deriving DecidableEq, Repr

/-- The exact value of a decimal. -/
def Decimal.toFraction (d : Decimal) : Fraction :=
  ⟨d.digits * Nat.pow 10 d.exponent.toNat, Nat.pow 10 (-d.exponent).toNat⟩

/-- Whether a decimal rounds to a double. -/
def rounds (d : Double) (x : Decimal) : Bool :=
  ofFraction? x.toFraction == some d

/-- The distance of two fractions, over the product of their denominators. -/
def distance (a b : Fraction) : Nat :=
  let x := a.num * b.den
  let y := b.num * a.den
  max x y - min x y

/-- The exponent of the greatest power of ten that is not above a double other than
    zero. -/
def floorLog10 (d : Double) : Int :=
  let shift := 400
  let f := d.toFraction
  ((toString (f.num * Nat.pow 10 shift / f.den)).length : Int) - 1 - shift

/-- A decimal with `n` digits that rounds to a double, the nearer one of two. -/
def decimal? (d : Double) (n : Nat) : Option Decimal :=
  let exponent : Int := floorLog10 d - (n - 1)
  let f := d.toFraction
  let below := f.num * Nat.pow 10 (-exponent).toNat / (f.den * Nat.pow 10 exponent.toNat)
  let candidates := [(⟨below, exponent⟩ : Decimal), ⟨below + 1, exponent⟩].filter (rounds d)
  match candidates with
  | [] => none
  | [x] => some x
  | x :: y :: _ =>
    if distance f y.toFraction < distance f x.toFraction then some y else some x

/-- The shortest decimal that rounds to a double. -/
def shortest (d : Double) : Decimal :=
  if d.isZero then ⟨0, 0⟩
  else ((List.range' 1 17).findSome? (decimal? d)).getD ⟨0, 0⟩

end Double

end ElmAssist
