/-
  Ratios of counts, to a fixed number of decimals.

  A ratio is first rounded to double precision and then to the decimals asked
  for; at both steps a tie goes to the even neighbour.
-/

namespace ElmAssist.Ratio

/-- The quotient rounded to the nearest natural number, a tie to the even one. -/
def roundDiv (num den : Nat) : Nat :=
  let q := num / den
  let r := num % den
  if 2 * r < den then q
  else if den < 2 * r then q + 1
  else q + q % 2

/-- The number of bits of a natural number. -/
def bits (n : Nat) : Nat :=
  if n = 0 then 0 else n.log2 + 1

/-- A fraction of natural numbers. -/
structure Fraction where
  num : Nat
  den : Nat
  deriving DecidableEq, Repr

/-- The double-precision number nearest to a fraction that is not tiny: 53 bits
    are kept. -/
def toDouble (f : Fraction) : Fraction :=
  if f.num = 0 then ⟨0, 1⟩
  else
    let shift : Int := 53 + (bits f.den : Int) - bits f.num
    let num := f.num * Nat.pow 2 shift.toNat
    let den := f.den * Nat.pow 2 (-shift).toNat
    -- the quotient has 53 or 54 bits
    if num / den < Nat.pow 2 53 then ⟨roundDiv num den * Nat.pow 2 (-shift).toNat, Nat.pow 2 shift.toNat⟩
    else ⟨roundDiv num (2 * den) * 2 * Nat.pow 2 (-shift).toNat, Nat.pow 2 shift.toNat⟩

/-- A fraction in decimal notation with a number of places. -/
def toFixed (places : Nat) (f : Fraction) : String :=
  let scaled := roundDiv (f.num * Nat.pow 10 places) f.den
  let digits := toString (scaled % Nat.pow 10 places)
  toString (scaled / Nat.pow 10 places) ++ "." ++
    String.ofList (List.replicate (places - digits.length) '0') ++ digits

/-- The share of `part` in `part + rest`, in double precision; zero if there is
    nothing to share. -/
def share (part rest : Nat) : Fraction :=
  if part + rest = 0 then ⟨0, 1⟩
  else
    let a := toDouble ⟨part, 1⟩
    let b := toDouble ⟨part + rest, 1⟩
    toDouble ⟨a.num * b.den, a.den * b.num⟩

end ElmAssist.Ratio
