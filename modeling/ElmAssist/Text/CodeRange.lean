/-
  Character classes as tables of code points.

  A class of characters outside ASCII is given by a list of `CodeRange`s.  A
  range may have a step, because cased alphabets often alternate capital and
  small letters; `CodeRange.Table.contains` is membership in one of the ranges.
-/

namespace ElmAssist.Text

/-- The code points `first, first + step, …` up to `last`. -/
structure CodeRange where
  /-- The least code point of the range. -/
  first : Nat
  /-- The greatest code point of the range. -/
  last : Nat
  /-- The distance between neighbours: `1` for a run, `2` for an alternation. -/
  step : Nat

/-- Whether a code point lies in the range. -/
def CodeRange.contains (r : CodeRange) (n : Nat) : Bool :=
  r.first ≤ n && n ≤ r.last && (n - r.first) % r.step == 0

/-- A class of characters: the union of its ranges. -/
abbrev CodeTable := List CodeRange

/-- Whether a character belongs to the class. -/
def CodeTable.contains (t : CodeTable) (c : Char) : Bool :=
  t.any (·.contains c.toNat)

/-- Whether a character is one of the 128 of ASCII. -/
def isAscii (c : Char) : Bool :=
  c.toNat < 128

end ElmAssist.Text
