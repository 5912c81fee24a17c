/-
  Columns counted in UTF-16 units.

  Editors count columns in UTF-16 code units: a character of the basic plane is
  one unit wide, any other two.  `columnOfUnits` turns such a column into a
  number of characters; a column in the middle of a wide character is the column
  of that character.
-/

namespace ElmAssist.Text

/-- The number of UTF-16 units of a character. -/
def charUnits (c : Char) : Nat :=
  if c.toNat < 0x10000 then 1 else 2

/-- The number of UTF-16 units of a text. -/
def units : List Char → Nat
  | [] => 0
  | c :: rest => charUnits c + units rest

/-- The number of whole characters in the first `n` units of a text. -/
def columnOfUnits : List Char → Nat → Nat
  | [], _ => 0
  | c :: rest, n => if charUnits c ≤ n then columnOfUnits rest (n - charUnits c) + 1 else 0

theorem charUnits_pos (c : Char) : 0 < charUnits c := by
  unfold charUnits
  split <;> omega

theorem units_append (a b : List Char) : units (a ++ b) = units a + units b := by
  induction a with
  | nil => simp [units]
  | cons c rest ih => simp only [List.cons_append, units, ih]; omega

/-- The column at the end of a beginning of the text is its length. -/
theorem columnOfUnits_append (a b : List Char) : columnOfUnits (a ++ b) (units a) = a.length := by
  induction a with
  | nil =>
    cases b with
    | nil => rfl
    | cons c rest =>
      have := charUnits_pos c
      have h : ¬ charUnits c ≤ 0 := by omega
      simp [units, columnOfUnits, h]
  | cons c rest ih =>
    simp [columnOfUnits, units, ih]

end ElmAssist.Text
