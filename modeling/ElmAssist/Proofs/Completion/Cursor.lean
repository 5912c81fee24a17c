/-
  The place of the cursor.

  Editors give the cursor by a line and a column in UTF-16 units.  Only the line counts, and
  on the line only the token that the cursor touches:

  * `contextAt_located`: a position in a text asks for what the column asks for in the line
    alone; behind a line and behind the last line, nothing is asked for.
  * `contextAt_eq_of_touches`: all columns that touch a token ask for the same.
-/
import ElmAssist.Proofs.Completion.ImportClause
import ElmAssist.Proofs.Text.Lines

namespace ElmAssist.Completion

open Text

/-! ## Lines and columns -/

section
variable {text : String} {k n : Nat} {line : List Char}

theorem lineAndColumn_of_line (hline : (lines text.toList)[k]? = some line)
    (hn : n ≤ units line) :
    lineAndColumn text ⟨k, n⟩ = some (withoutBreak line, columnOfUnits line n) := by
  have hguard : (guard (n ≤ units line) : Option Unit) = some () := if_pos hn
  rw [lineAndColumn, hline, Option.bind_eq_bind, Option.bind_some, hguard]
  rfl

theorem contextAt_of_line (hline : (lines text.toList)[k]? = some line) (hn : n ≤ units line) :
    contextAt text ⟨k, n⟩ = contextInLine (withoutBreak line) (columnOfUnits line n) := by
  rw [contextAt, lineAndColumn_of_line hline hn]
  rfl

/-- No position lies behind a line with its break, or behind the last line. -/
theorem contextAt_eq_none_of_lt
    (h : ∀ line, (lines text.toList)[k]? = some line → units line < n) :
    contextAt text ⟨k, n⟩ = none := by
  have hnone : lineAndColumn text ⟨k, n⟩ = none := by
    cases hline : (lines text.toList)[k]? with
    | none =>
      rw [lineAndColumn, hline]
      rfl
    | some line =>
      have hguard : (guard (n ≤ units line) : Option Unit) = none :=
        if_neg (Nat.not_le.2 (h line hline))
      rw [lineAndColumn, hline, Option.bind_eq_bind, Option.bind_some, hguard]
      rfl
  rw [contextAt, hnone]
  rfl

theorem contextInLine_eq_none_of_lt {column : Nat} (h : line.length < column) :
    contextInLine line column = none := by
  rw [contextInLine, wordRange_eq_none_iff.2 (.inl h)]
  rfl

/-- A text without breaks is its only line. -/
theorem contextAt_of_no_break {cs : List Char} (h : ∀ c ∈ cs, isLineBreak c = false)
    (hn : n ≤ units cs) :
    contextAt (String.ofList cs) ⟨0, n⟩ = contextInLine cs (columnOfUnits cs n) := by
  have hlines : (lines (String.ofList cs).toList)[0]? = some cs := by
    rw [String.toList_ofList, lines_of_no_break h]
    rfl
  have hself : withoutBreak (cs ++ []) = cs := withoutBreak_append h (by simp)
  rw [List.append_nil] at hself
  rw [contextAt_of_line hlines hn, hself]

end

/-! ## Positions -/

section
variable {text : String} {k n : Nat} {line : List Char} (hplain : BreaksPlainly text.toList)
  (hline : (lines text.toList)[k]? = some line)
include hplain hline

/-- At the end of a beginning of the line, the rest of the text does not matter. -/
theorem contextAt_of_append {p q : List Char} (hpq : withoutBreak line = p ++ q) :
    contextAt text ⟨k, units p⟩ = contextAt (String.ofList (p ++ q)) ⟨0, units p⟩ := by
  obtain ⟨hbody, brk, -, hcut⟩ := exists_break hplain (List.mem_of_getElem? hline)
  rw [hpq] at hbody hcut
  have hle : units p ≤ units (p ++ q) := by
    rw [units_append]
    omega
  have hle' : units p ≤ units line := by
    rw [hcut, units_append]
    omega
  rw [contextAt_of_line hline hle', contextAt_of_no_break hbody hle, hpq, hcut,
    List.append_assoc, columnOfUnits_append, columnOfUnits_append]

/-- A column in a wide character is that of the character. -/
theorem contextAt_inside {p q : List Char} {c : Char} (hpq : withoutBreak line = p ++ c :: q)
    (hstart : units p < n) (hend : n < units p + charUnits c) :
    contextAt text ⟨k, n⟩ = contextAt text ⟨k, units p⟩ := by
  obtain ⟨-, brk, -, hcut⟩ := exists_break hplain (List.mem_of_getElem? hline)
  rw [hpq, List.append_assoc, List.cons_append] at hcut
  have hle : units p + charUnits c ≤ units line := by
    rw [hcut, units_append, units]
    omega
  rw [contextAt_of_line hline (by omega), contextAt_of_line hline (by omega), hcut,
    columnOfUnits_inside hstart.le hend, columnOfUnits_append]

/-- Behind a line there is nothing to complete, in its break or behind it. -/
theorem contextAt_behind_line (hn : units (withoutBreak line) < n) :
    contextAt text ⟨k, n⟩ = none := by
  obtain ⟨-, brk, hbrk, hcut⟩ := exists_break hplain (List.mem_of_getElem? hline)
  by_cases hle : n ≤ units line
  · have hunits : units line = units (withoutBreak line) + units brk := by
      rw [← units_append, ← hcut]
    obtain ⟨c, rest, rfl, hc⟩ : ∃ c rest, brk = c :: rest ∧ charUnits c = 1 := by
      simp only [List.mem_cons, List.not_mem_nil, or_false] at hbrk
      rcases hbrk with rfl | rfl | rfl | rfl
      · rw [hunits, units] at hle
        omega
      all_goals exact ⟨_, _, rfl, by decide⟩
    have hcolumn : (withoutBreak line).length < columnOfUnits line n := by
      conv_rhs => rw [hcut]
      exact lt_columnOfUnits (by omega)
    rw [contextAt_of_line hline hle, contextInLine_eq_none_of_lt hcolumn]
  · apply contextAt_eq_none_of_lt
    intro line' hline'
    rw [Option.some.inj (hline'.symm.trans hline)]
    omega

end

/-- **Positions in a text** whose only line breaks are line feeds and carriage returns.  The
    text is cut into lines behind these; each line is a text without breaks, behind which stand
    a line feed, a carriage return, both or none.  A column at the end of a beginning `p` of
    that text asks for what it asks for if the text stands alone, and so does a column in the
    wide character behind `p`.  Columns behind the text ask for nothing, even within the break,
    and neither do positions behind the last line. -/
theorem contextAt_located (text : String) (hplain : BreaksPlainly text.toList) (k : Nat) :
    CutIntoLines text.toList (lines text.toList) ∧
    (∀ line, (lines text.toList)[k]? = some line →
      ((∀ c ∈ withoutBreak line, isLineBreak c = false) ∧
        ∃ brk ∈ [[], ['\n'], ['\r'], ['\r', '\n']], line = withoutBreak line ++ brk) ∧
      (∀ p q, withoutBreak line = p ++ q →
        contextAt text ⟨k, units p⟩ = contextAt (String.ofList (p ++ q)) ⟨0, units p⟩) ∧
      (∀ p c q n, withoutBreak line = p ++ c :: q → units p < n → n < units p + charUnits c →
        contextAt text ⟨k, n⟩ = contextAt text ⟨k, units p⟩) ∧
      ∀ n, units (withoutBreak line) < n → contextAt text ⟨k, n⟩ = none) ∧
    ((lines text.toList).length ≤ k → ∀ n, contextAt text ⟨k, n⟩ = none) := by
  refine ⟨cut_lines text.toList, ?_, ?_⟩
  · intro line hline
    refine ⟨exists_break hplain (List.mem_of_getElem? hline), ?_, ?_, ?_⟩
    · intro p q hpq
      exact contextAt_of_append hplain hline hpq
    · intro p c q n hpq hstart hend
      exact contextAt_inside hplain hline hpq hstart hend
    · intro n hn
      exact contextAt_behind_line hplain hline hn
  · intro hk n
    apply contextAt_eq_none_of_lt
    intro line hline
    rw [List.getElem?_eq_none hk] at hline
    cases hline

/-- A wide letter in the second of three lines, with different breaks. -/
theorem contextAt_located_wide :
    let text := "x\r\n𝒳y\rz"
    let line := "𝒳y\r".toList
    BreaksPlainly text.toList ∧ (lines text.toList)[1]? = some line ∧
      withoutBreak line = "𝒳".toList ++ "y".toList ∧
      contextAt text ⟨1, 2⟩ = contextAt "𝒳y" ⟨0, 2⟩ ∧
      contextAt text ⟨1, 1⟩ = contextAt text ⟨1, 0⟩ ∧ contextAt text ⟨1, 4⟩ = none ∧
      (lines text.toList).length ≤ 3 ∧ contextAt text ⟨3, 0⟩ = none ∧
      contextAt text ⟨1, 1⟩ = some (.qualified "" "𝒳y") := by
  intro text line
  have hplain : BreaksPlainly text.toList := by decide
  have hline : (lines text.toList)[1]? = some line := by decide
  have hlength : (lines text.toList).length ≤ 3 := by decide
  have hbody : withoutBreak line = "𝒳".toList ++ "y".toList := by decide
  obtain ⟨-, hlines, -⟩ := contextAt_located text hplain 1
  obtain ⟨-, hstand, hinside, hbehind⟩ := hlines line hline
  obtain ⟨-, -, hlast⟩ := contextAt_located text hplain 3
  refine ⟨hplain, hline, hbody, hstand _ _ hbody, ?_, ?_, hlength, hlast hlength 0, ?_⟩
  · exact hinside [] '𝒳' "y".toList 1 hbody (by decide) (by decide)
  · exact hbehind 4 (by decide)
  · decide +kernel

/-! ## Tokens -/

/-- **All columns that touch a token** ask for the same. -/
theorem contextAt_eq_of_touches {text : String} {k m n : Nat} {line : List Char} {i j : Nat}
    {r : ColumnRange} (hm : lineAndColumn text ⟨k, m⟩ = some (line, i))
    (hn : lineAndColumn text ⟨k, n⟩ = some (line, j)) (hr : IsRun isIdentifierChar line r)
    (hi : r.Touches i) (hj : r.Touches j) :
    contextAt text ⟨k, m⟩ = contextAt text ⟨k, n⟩ := by
  have hrule : inImportedName line i = inImportedName line j := by
    rw [Bool.eq_iff_iff, inImportedName_iff_of_isRun hr hi, inImportedName_iff_of_isRun hr hj]
  rw [contextAt, contextAt, hm, hn]
  change contextInLine line i = contextInLine line j
  ext context
  rw [contextInLine_of_isRun hr hi, contextInLine_of_isRun hr hj, hrule]

/-- In front of a qualified name behind an operator, and behind it. -/
theorem contextAt_eq_of_touches_qualified :
    let text := "a+b.c"
    let r : ColumnRange := ⟨2, 5⟩
    lineAndColumn text ⟨0, 2⟩ = some (text.toList, 2) ∧
      lineAndColumn text ⟨0, 5⟩ = some (text.toList, 5) ∧
      IsRun isIdentifierChar text.toList r ∧ r.Touches 2 ∧ r.Touches 5 ∧
      contextAt text ⟨0, 2⟩ = contextAt text ⟨0, 5⟩ ∧
      contextAt text ⟨0, 5⟩ = some (.qualified "b" "c") := by
  intro text r
  have hm : lineAndColumn text ⟨0, 2⟩ = some (text.toList, 2) := by decide +kernel
  have hn : lineAndColumn text ⟨0, 5⟩ = some (text.toList, 5) := by decide +kernel
  have hfirst : wordRange isIdentifierChar text.toList 2 = some r := by decide +kernel
  have hlast : wordRange isIdentifierChar text.toList 5 = some r := by decide +kernel
  obtain ⟨hr, hi⟩ := wordRange_eq_some_iff.1 hfirst
  obtain ⟨-, hj⟩ := wordRange_eq_some_iff.1 hlast
  exact ⟨hm, hn, hr, hi, hj, contextAt_eq_of_touches hm hn hr hi hj, by decide +kernel⟩

end ElmAssist.Completion
