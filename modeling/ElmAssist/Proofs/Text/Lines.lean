/-
  Lines and their breaks.

  A line is a text without line breaks, followed by its break, which only the last line lacks;
  a carriage return and a line feed behind it are one break (`cut_lines`).  If the only breaks
  are line feeds and carriage returns, the break is what `withoutBreak` takes away
  (`exists_break`).

  Columns count UTF-16 units.  `columnOfUnits_append_add` splits a column at a beginning of
  the line; a column in a wide character is that of the character (`columnOfUnits_inside`),
  and a column in the break lies behind the line (`lt_columnOfUnits`).
-/
import Mathlib.Data.List.DropRight
import ElmAssist.Text.Lines
import ElmAssist.Text.Utf16

namespace ElmAssist.Text

/-! ## Lines -/

/-- A line break: a character that breaks lines, or a carriage return and a line feed. -/
inductive IsBreak : List Char → Prop
  | one {c : Char} (h : isLineBreak c = true) : IsBreak [c]
  | two : IsBreak ['\r', '\n']

/-- A text cut into its lines, each with its break. -/
inductive CutIntoLines : List Char → List (List Char) → Prop
  | last {body : List Char} (hbody : ∀ c ∈ body, isLineBreak c = false) :
      CutIntoLines body [body]
  | line {body brk rest : List Char} {ls : List (List Char)}
      (hbody : ∀ c ∈ body, isLineBreak c = false) (hbrk : IsBreak brk)
      (htwo : brk = ['\r'] → rest.head? ≠ some '\n') (hrest : CutIntoLines rest ls) :
      CutIntoLines (body ++ (brk ++ rest)) ((body ++ brk) :: ls)

theorem CutIntoLines.consLine {c : Char} {cs : List Char} {ls : List (List Char)}
    (hc : isLineBreak c = false) (h : CutIntoLines cs ls) :
    CutIntoLines (c :: cs) (consLine c ls) := by
  cases h with
  | last hbody => exact .last (List.forall_mem_cons.2 ⟨hc, hbody⟩)
  | @line body brk rest ls hbody hbrk htwo hrest =>
    exact @line (c :: body) brk rest ls (List.forall_mem_cons.2 ⟨hc, hbody⟩) hbrk htwo hrest

/-- **A text is cut** behind each of its line breaks, and nowhere else. -/
theorem cut_lines (cs : List Char) : CutIntoLines cs (lines cs) := by
  fun_induction lines cs with
  | case1 => exact .last (by simp)
  | case2 rest ih => exact @CutIntoLines.line [] _ rest _ (by simp) .two (by simp) ih
  | case3 c rest hpair hc ih =>
    refine @CutIntoLines.line [] [c] rest _ (by simp) (.one hc) ?_ ih
    intro hcr hhead
    obtain ⟨rest, rfl⟩ := List.head?_eq_some_iff.1 hhead
    exact hpair rest (List.singleton_inj.1 hcr) rfl
  | case4 c rest _ hc ih => exact ih.consLine (Bool.eq_false_iff.2 hc)

theorem CutIntoLines.mem {cs line : List Char} {ls : List (List Char)} (h : CutIntoLines cs ls)
    (hline : line ∈ ls) : ∃ body brk, line = body ++ brk ∧
      (∀ c ∈ body, isLineBreak c = false) ∧ (brk = [] ∨ IsBreak brk) := by
  induction h with
  | @last body hbody =>
    obtain rfl := List.mem_singleton.1 hline
    exact ⟨line, [], (List.append_nil line).symm, hbody, .inl rfl⟩
  | line hbody hbrk _ _ ih =>
    rcases List.mem_cons.1 hline with rfl | hline
    · exact ⟨_, _, rfl, hbody, .inr hbrk⟩
    · exact ih hline

/-- A text without breaks is one line. -/
theorem lines_of_no_break {cs : List Char} (h : ∀ c ∈ cs, isLineBreak c = false) :
    lines cs = [cs] := by
  fun_induction lines cs with
  | case1 => rfl
  | case2 rest ih => exact absurd (h '\r' List.mem_cons_self) (by decide)
  | case3 c rest _ hc ih =>
    rw [h c List.mem_cons_self] at hc
    cases hc
  | case4 c rest _ _ ih => rw [ih fun d hd => h d (List.mem_cons_of_mem c hd), consLine]

/-! ## Breaks of lines -/

/-- The only line breaks of a text are line feeds and carriage returns. -/
def BreaksPlainly (cs : List Char) : Prop :=
  ∀ c ∈ cs, isLineBreak c = true → c = '\n' ∨ c = '\r'

instance (cs : List Char) : Decidable (BreaksPlainly cs) :=
  List.decidableBAll (fun c => isLineBreak c = true → c = '\n' ∨ c = '\r') cs

/-- **Without its break**, a line is what stands in front of its line feeds and carriage
    returns. -/
theorem withoutBreak_append {body brk : List Char} (hbody : ∀ c ∈ body, isLineBreak c = false)
    (hbrk : ∀ c ∈ brk, c = '\n' ∨ c = '\r') : withoutBreak (body ++ brk) = body := by
  have hkeep : ∀ c ∈ body, ¬ (c = '\n' ∨ c = '\r') := by
    rintro c hc (rfl | rfl) <;> exact absurd (hbody _ hc) (by decide)
  rw [withoutBreak, List.reverse_append, List.dropWhile_append_of_pos]
  · rw [← List.rdropWhile, List.rdropWhile_eq_self_iff]
    intro hne hend
    exact hkeep _ (List.getLast_mem hne) (by simpa using hend)
  · intro c hc
    simpa using hbrk c (List.mem_reverse.1 hc)

/-- A line of a text is what `withoutBreak` leaves, which has no break, and a line feed, a
    carriage return, both or none. -/
theorem exists_break {cs line : List Char} (hplain : BreaksPlainly cs) (h : line ∈ lines cs) :
    (∀ c ∈ withoutBreak line, isLineBreak c = false) ∧
      ∃ brk ∈ [[], ['\n'], ['\r'], ['\r', '\n']], line = withoutBreak line ++ brk := by
  obtain ⟨body, brk, rfl, hbody, hbrk⟩ := (cut_lines cs).mem h
  have hmem : ∀ c ∈ brk, c ∈ cs := by
    intro c hc
    rw [← flatten_lines cs]
    exact List.mem_flatten.2 ⟨_, h, List.mem_append_right body hc⟩
  have hcases : brk ∈ [[], ['\n'], ['\r'], ['\r', '\n']] := by
    rcases hbrk with rfl | hd | _
    · simp
    · rcases hplain _ (hmem _ List.mem_cons_self) hd with rfl | rfl <;> simp
    · simp
  have hend : ∀ c ∈ brk, c = '\n' ∨ c = '\r' := by
    simp only [List.mem_cons, List.not_mem_nil, or_false] at hcases
    rcases hcases with rfl | rfl | rfl | rfl <;> simp
  rw [withoutBreak_append hbody hend]
  exact ⟨hbody, brk, hcases, rfl⟩

/-! ## Columns -/

/-- A column behind a beginning of a line. -/
theorem columnOfUnits_append_add (a b : List Char) (n : Nat) :
    columnOfUnits (a ++ b) (units a + n) = a.length + columnOfUnits b n := by
  induction a with
  | nil => simp [units]
  | cons c a ih =>
    rw [List.cons_append, columnOfUnits, units, if_pos (by omega), Nat.add_assoc,
      Nat.add_sub_cancel_left, ih, List.length_cons]
    omega

/-- **In a wide character**, the column is that of the character. -/
theorem columnOfUnits_inside {a b : List Char} {c : Char} {n : Nat} (hn : units a ≤ n)
    (hc : n < units a + charUnits c) : columnOfUnits (a ++ c :: b) n = a.length := by
  obtain ⟨m, rfl⟩ := Nat.exists_eq_add_of_le hn
  rw [columnOfUnits_append_add, columnOfUnits, if_neg (by omega), Nat.add_zero]

/-- A column behind the first character of a break lies behind what the break follows. -/
theorem lt_columnOfUnits {a b : List Char} {c : Char} {n : Nat}
    (h : units a + charUnits c ≤ n) : a.length < columnOfUnits (a ++ c :: b) n := by
  obtain ⟨m, rfl⟩ := Nat.exists_eq_add_of_le ((Nat.le_add_right ..).trans h)
  rw [columnOfUnits_append_add, columnOfUnits, if_pos (by omega)]
  omega

end ElmAssist.Text
