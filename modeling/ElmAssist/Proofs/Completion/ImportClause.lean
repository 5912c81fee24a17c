/-
  The import rule.

  On a line that is the keyword `import`, blanks and a text without blanks, the token under
  the cursor is completed as part of a module name, unless the cursor touches the keyword.
  No blank is a character of an identifier, so every token of such a line lies in the keyword
  or in the name: whether the rule applies depends on the token, not on the column
  (`inImportedName_iff_of_isRun`).

  * `contextAt_eq_importing_iff`: exactly when a position asks for a module name, and which
    text has been typed of it.
-/
import ElmAssist.Proofs.Completion.Token

namespace ElmAssist.Completion

open Text

/-! ## Blanks and identifiers -/

/-- The code points of the blanks. -/
def blankCodes : List Nat :=
  List.range' 0x09 5 ++ List.range' 0x2000 11 ++
    [0x20, 0x85, 0xA0, 0x1680, 0x2028, 0x2029, 0x202F, 0x205F, 0x3000]

theorem toNat_mem_blankCodes {c : Char} (h : isBlank c = true) : c.toNat ∈ blankCodes := by
  simp only [isBlank, Bool.or_eq_true, Bool.and_eq_true, decide_eq_true_eq, beq_iff_eq] at h
  simp only [blankCodes, List.mem_append, List.mem_range'_1, List.mem_cons, List.not_mem_nil]
  omega

/-- **No blank is a character of an identifier.** -/
theorem isIdentifierChar_of_isBlank {c : Char} (h : isBlank c = true) :
    isIdentifierChar c = false := by
  have hall : ∀ n ∈ blankCodes, isIdentifierChar (Char.ofNat n) = false := by decide +kernel
  rw [← Char.ofNat_toNat c]
  exact hall c.toNat (toNat_mem_blankCodes h)

/-! ## Import clauses -/

/-- The line is the keyword, at least one blank, and a text without blanks. -/
structure IsImportClause (line blanks name : List Char) : Prop where
  line_eq : line = "import".toList ++ (blanks ++ name)
  ne_nil : blanks ≠ []
  blank : ∀ c ∈ blanks, isBlank c = true
  solid : ∀ c ∈ name, isBlank c = false

/-- The columns of the name of an import clause. -/
def nameColumns (blanks name : List Char) : ColumnRange :=
  ⟨"import".length + blanks.length, "import".length + blanks.length + name.length⟩

section
variable {line blanks name : List Char} {column : Nat} {r : ColumnRange}

theorem dropWhile_blanks (hblanks : ∀ c ∈ blanks, isBlank c = true)
    (hname : ∀ c ∈ name, isBlank c = false) : (blanks ++ name).dropWhile isBlank = name := by
  rw [List.dropWhile_append_of_pos hblanks]
  cases name with
  | nil => rfl
  | cons c name => rw [List.dropWhile_cons, hname c List.mem_cons_self, if_neg Bool.false_ne_true]

/-- What stands behind the keyword of an import clause. -/
theorem exists_isImportClause_iff {rest : List Char} :
    (∃ blanks name, IsImportClause ("import".toList ++ rest) blanks name) ↔
      rest.head?.any isBlank = true ∧ ∀ c ∈ rest.dropWhile isBlank, isBlank c = false := by
  constructor
  · rintro ⟨blanks, name, h⟩
    obtain rfl : rest = blanks ++ name := List.append_cancel_left h.line_eq
    rw [dropWhile_blanks h.blank h.solid]
    refine ⟨?_, h.solid⟩
    obtain ⟨c, blanks, rfl⟩ := List.exists_cons_of_ne_nil h.ne_nil
    exact h.blank c List.mem_cons_self
  · rintro ⟨hhead, hsolid⟩
    refine ⟨rest.takeWhile isBlank, rest.dropWhile isBlank, ?_, ?_, ?_, hsolid⟩
    · rw [List.takeWhile_append_dropWhile]
    · cases rest with
      | nil => cases hhead
      | cons c rest =>
        have hc : isBlank c = true := hhead
        rw [List.takeWhile_cons_of_pos hc]
        exact List.cons_ne_nil c _
    · exact fun c hc => List.mem_takeWhile_imp hc

theorem inImportedName_iff : inImportedName line column = true ↔
    (∃ blanks name, IsImportClause line blanks name) ∧ "import".length < column := by
  unfold inImportedName
  cases hrest : "import".toList.isPrefixOf? line with
  | none =>
    refine iff_of_false Bool.false_ne_true ?_
    rintro ⟨⟨blanks, name, h⟩, -⟩
    have hsome := List.isPrefixOf?_eq_some_iff_append_eq.2 h.line_eq.symm
    rw [hrest] at hsome
    cases hsome
  | some rest =>
    obtain rfl := List.isPrefixOf?_eq_some_iff_append_eq.1 hrest
    simp only [exists_isImportClause_iff, Bool.and_eq_true, decide_eq_true_eq, Bool.not_eq_true',
      List.any_eq_false, Bool.not_eq_true]
    exact and_right_comm

/-- A column behind the keyword that touches a token is one of the name. -/
theorem IsImportClause.covers_iff (h : IsImportClause line blanks name)
    (hr : IsRun isIdentifierChar line r) (hc : r.Touches column) :
    (nameColumns blanks name).Covers r ↔ "import".length < column := by
  obtain ⟨hstart, hstop⟩ := hc
  have hpos := List.length_pos_iff.2 h.ne_nil
  have hne := hr.nonempty
  have hlength := hr.stop_le
  rw [h.line_eq, List.length_append, List.length_append, String.length_toList] at hlength
  constructor
  · rintro ⟨hfirst, -⟩
    dsimp only [nameColumns] at hfirst
    omega
  · intro hcolumn
    refine ⟨?_, ?_⟩
    · dsimp only [nameColumns]
      by_contra hlt
      -- The first column of the token behind the keyword holds a blank.
      obtain ⟨c, hget, hident⟩ := hr.exists_inside (i := max r.start "import".length)
        (Nat.le_max_left ..) (by omega)
      rw [h.line_eq, List.getElem?_append_right (by rw [String.length_toList]; omega),
        String.length_toList, List.getElem?_append_left (by omega)] at hget
      have hblank := h.blank c (List.mem_of_getElem? hget)
      rw [isIdentifierChar_of_isBlank hblank] at hident
      cases hident
    · dsimp only [nameColumns]
      omega

/-- **The import rule and the token**: the rule applies to the tokens of the name. -/
theorem inImportedName_iff_of_isRun (hr : IsRun isIdentifierChar line r) (hc : r.Touches column) :
    inImportedName line column = true ↔
      ∃ blanks name, IsImportClause line blanks name ∧ (nameColumns blanks name).Covers r := by
  rw [inImportedName_iff]
  constructor
  · rintro ⟨⟨blanks, name, h⟩, hcolumn⟩
    exact ⟨blanks, name, h, (h.covers_iff hr hc).2 hcolumn⟩
  · rintro ⟨blanks, name, h, hcovers⟩
    exact ⟨⟨blanks, name, h⟩, (h.covers_iff hr hc).1 hcovers⟩

theorem IsImportClause.slice_infix (h : IsImportClause line blanks name)
    (hcovers : (nameColumns blanks name).Covers r) : r.slice line <:+: name := by
  have hstart : ("import".toList ++ blanks).length ≤ r.start := by
    rw [List.length_append, String.length_toList]
    exact hcovers.1
  rw [ColumnRange.slice, h.line_eq, ← List.append_assoc, List.drop_append,
    List.drop_eq_nil_of_le hstart, List.nil_append]
  exact (List.take_prefix ..).isInfix.trans (List.drop_suffix ..).isInfix

/-- A line with a blank behind the first character of the name is no import clause. -/
theorem not_isImportClause {front back : List Char} (hfront : ∃ c ∈ front, isBlank c = false)
    (hback : ∃ c ∈ back, isBlank c = true) :
    ¬ IsImportClause ("import".toList ++ (front ++ back)) blanks name := by
  intro h
  obtain ⟨c, hc, hsolid⟩ := hfront
  obtain ⟨d, hd, hblank⟩ := hback
  have hrest : front ++ back = blanks ++ name := List.append_cancel_left h.line_eq
  rcases List.append_eq_append_iff.1 hrest with ⟨rest, rfl, -⟩ | ⟨rest, -, rfl⟩
  · have hc' := h.blank c (List.mem_append_left rest hc)
    rw [hsolid] at hc'
    cases hc'
  · have hd' := h.solid d (List.mem_append_right rest hd)
    rw [hblank] at hd'
    cases hd'

end

/-! ## Positions in import clauses -/

theorem classify_ne_importing (token typed : String) : classify token ≠ .importing typed := by
  unfold classify
  split
  intro h
  split at h <;> cases h

theorem exists_isImportClause_of_contextAt {text : String} {pos : Position} {typed : String}
    (h : contextAt text pos = some (.importing typed)) :
    ∃ line column blanks name r, lineAndColumn text pos = some (line, column) ∧
      IsImportClause line blanks name ∧ IsRun isIdentifierChar line r ∧ r.Touches column ∧
      (nameColumns blanks name).Covers r ∧ InNamedWord line r ∧ typed.toList = r.slice line := by
  obtain ⟨line, column, hline, hcontext⟩ := contextAt_eq_some_iff.1 h
  obtain ⟨r, hr, hc⟩ := exists_isRun_of_contextInLine hcontext
  obtain ⟨hnamed, htoken⟩ := (contextInLine_of_isRun hr hc).1 hcontext
  split at htoken
  · next himport =>
    obtain ⟨blanks, name, hclause, hcovers⟩ := (inImportedName_iff_of_isRun hr hc).1 himport
    obtain rfl := Context.importing.inj htoken
    exact ⟨line, column, blanks, name, r, hline, hclause, hr, hc, hcovers, hnamed,
      String.toList_ofList⟩
  · exact absurd htoken (classify_ne_importing _ typed)

/-- **Where a module name is completed.**  A position asks for the name of an imported module
    iff its line is the keyword, blanks and a text without blanks, and the cursor touches a
    token of that text that is part of a word with a letter, a digit or an underscore.  This
    token is what has been typed, so nothing of the keyword is.  And no position asks for such
    a name on a line with a blank behind the name. -/
theorem contextAt_eq_importing_iff (text : String) (pos : Position) :
    (∀ typed, contextAt text pos = some (.importing typed) ↔
      ∃ line column blanks name r, lineAndColumn text pos = some (line, column) ∧
        IsImportClause line blanks name ∧ IsRun isIdentifierChar line r ∧ r.Touches column ∧
        (nameColumns blanks name).Covers r ∧ InNamedWord line r ∧
        typed.toList = r.slice line ∧ typed.toList <:+: name) ∧
    ∀ front back column,
      lineAndColumn text pos = some ("import".toList ++ (front ++ back), column) →
        (∃ c ∈ front, isBlank c = false) → (∃ c ∈ back, isBlank c = true) →
          ∀ typed, contextAt text pos ≠ some (.importing typed) := by
  refine ⟨fun typed => ⟨fun h => ?_, ?_⟩, ?_⟩
  · obtain ⟨line, column, blanks, name, r, hline, hclause, hr, hc, hcovers, hnamed, htyped⟩ :=
      exists_isImportClause_of_contextAt h
    refine ⟨line, column, blanks, name, r, hline, hclause, hr, hc, hcovers, hnamed, htyped, ?_⟩
    rw [htyped]
    exact hclause.slice_infix hcovers
  · rintro ⟨line, column, blanks, name, r, hline, hclause, hr, hc, hcovers, hnamed, htyped, -⟩
    refine contextAt_eq_some_iff.2 ⟨line, column, hline, ?_⟩
    refine (contextInLine_of_isRun hr hc).2 ⟨hnamed, ?_⟩
    rw [if_pos ((inImportedName_iff_of_isRun hr hc).2 ⟨blanks, name, hclause, hcovers⟩), ← htyped,
      String.ofList_toList]
  · intro front back column hline hfront hback typed h
    obtain ⟨line', column', blanks, name, r, hline', hclause, -⟩ :=
      exists_isImportClause_of_contextAt h
    obtain ⟨rfl, rfl⟩ := Prod.mk.inj (Option.some.inj (hline.symm.trans hline'))
    exact not_isImportClause hfront hback hclause

/-- A dotted name is completed as a whole, but not in front of a short name. -/
theorem contextAt_eq_importing_iff_dottedName :
    let front := " Html.At".toList
    let back := " as B".toList
    contextAt "import Html.At" ⟨0, 9⟩ = some (.importing "Html.At") ∧
      lineAndColumn "import Html.At as B" ⟨0, 9⟩ = some ("import".toList ++ (front ++ back), 9) ∧
      (∃ c ∈ front, isBlank c = false) ∧ (∃ c ∈ back, isBlank c = true) ∧
      (∀ typed, contextAt "import Html.At as B" ⟨0, 9⟩ ≠ some (.importing typed)) ∧
      contextAt "import Html.At as B" ⟨0, 9⟩ = some (.qualified "Html" "At") := by
  intro front back
  have hfront : ∃ c ∈ front, isBlank c = false := ⟨'H', by decide, by decide⟩
  have hback : ∃ c ∈ back, isBlank c = true := ⟨' ', by decide, by decide⟩
  have hbehind : lineAndColumn "import Html.At as B" ⟨0, 9⟩ =
      some ("import".toList ++ (front ++ back), 9) := by decide +kernel
  have hclause : IsImportClause "import Html.At".toList [' '] "Html.At".toList :=
    ⟨by decide, by decide, by simp [isBlank], by simp [isBlank]⟩
  have htoken : wordRange isIdentifierChar "import Html.At".toList 9 = some ⟨7, 14⟩ := by
    decide +kernel
  obtain ⟨hr, hc⟩ := wordRange_eq_some_iff.1 htoken
  have hnamed : InNamedWord "import Html.At".toList ⟨7, 14⟩ := hr.inNamedWord (by decide +kernel)
  refine ⟨?_, hbehind, hfront, hback, ?_, by decide +kernel⟩
  · refine ((contextAt_eq_importing_iff "import Html.At" ⟨0, 9⟩).1 "Html.At").2 ?_
    exact ⟨"import Html.At".toList, 9, [' '], "Html.At".toList, ⟨7, 14⟩, by decide +kernel, hclause,
      hr, hc, ⟨by decide, by decide⟩, hnamed, by decide, List.infix_rfl⟩
  · exact (contextAt_eq_importing_iff "import Html.At as B" ⟨0, 9⟩).2 front back 9 hbehind hfront
      hback

end ElmAssist.Completion
