/-
  The token that is completed.

  The context at a column is read off the run of identifier characters that it touches,
  provided that the run of word characters around this one has a letter, a digit or an
  underscore (`contextInLine_of_isRun`).

  The dot belongs to identifiers as well as to operators.  So the token itself need not have
  a letter, a digit or an underscore: behind an operator that ends in a dot and stands
  directly behind a name, the dot is completed as if it was an identifier.
  `contextAt_isSome_iff` says that there is no other such case.
-/
import ElmAssist.Proofs.Completion.Run

namespace ElmAssist.Completion

open Text

/-! ## Identifiers in words -/

/-- The run of word characters around a range has a letter, a digit or an underscore. -/
def InNamedWord (line : List Char) (r : ColumnRange) : Prop :=
  ∃ word, IsRun isWordChar line word ∧ word.Covers r ∧ (word.slice line).any isNameChar = true

section
variable {line : List Char} {column : Nat} {r : ColumnRange}

theorem any_slice_of_covers {p : Char → Bool} {r' : ColumnRange} (h : r'.Covers r)
    (hany : (r.slice line).any p = true) : (r'.slice line).any p = true := by
  obtain ⟨c, hc, hp⟩ := List.any_eq_true.1 hany
  obtain ⟨i, hstart, hstop, hi⟩ := mem_slice.1 hc
  refine List.any_eq_true.2 ⟨c, mem_slice.2 ⟨i, ?_, ?_, hi⟩, hp⟩
  · exact h.1.trans hstart
  · exact hstop.trans_le h.2

theorem IsRun.inNamedWord (h : IsRun isIdentifierChar line r)
    (hany : (r.slice line).any isNameChar = true) : InNamedWord line r := by
  obtain ⟨word, hword, hcovers⟩ := h.exists_covers isWordChar_of_isIdentifierChar
  exact ⟨word, hword, hcovers, any_slice_of_covers hcovers hany⟩

/-! ## The context of a token -/

/-- **The context at a column** of a run of identifier characters. -/
theorem contextInLine_of_isRun (h : IsRun isIdentifierChar line r) (hc : r.Touches column)
    {context : Context} :
    contextInLine line column = some context ↔ InNamedWord line r ∧
      (if inImportedName line column then .importing (String.ofList (r.slice line))
        else classify (String.ofList (r.slice line))) = context := by
  have hr : wordRange isIdentifierChar line column = some r := wordRange_eq_some_iff.2 ⟨h, hc⟩
  obtain ⟨word, hword, hcovers⟩ := h.exists_covers isWordChar_of_isIdentifierChar
  have hwr : wordRange isWordChar line column = some word :=
    wordRange_eq_some_iff.2 ⟨hword, hcovers.touches hc⟩
  have hnamed : (word.slice line).any isNameChar = true ↔ InNamedWord line r := by
    refine ⟨fun hany => ⟨word, hword, hcovers, hany⟩, ?_⟩
    rintro ⟨word', hword', hcovers', hany⟩
    rwa [hword.eq_of_touches hword' (hcovers.touches hc) (hcovers'.touches hc)]
  rw [contextInLine, hwr, Option.bind_eq_bind, Option.bind_some, ← hnamed]
  by_cases hany : (word.slice line).any isNameChar = true
  · have hguard : (guard ((word.slice line).any isNameChar = true) : Option Unit) = some () :=
      if_pos hany
    rw [hguard, Option.bind_eq_bind, Option.bind_some, hr, and_iff_right hany]
    exact Option.some_inj
  · have hguard : (guard ((word.slice line).any isNameChar = true) : Option Unit) = none :=
      if_neg hany
    rw [hguard]
    exact iff_of_false nofun fun h => hany h.1

theorem exists_isRun_of_contextInLine {context : Context}
    (h : contextInLine line column = some context) :
    ∃ r, IsRun isIdentifierChar line r ∧ r.Touches column := by
  unfold contextInLine at h
  obtain ⟨word, -, h⟩ := Option.bind_eq_some_iff.1 h
  obtain ⟨⟨⟩, -, h⟩ := Option.bind_eq_some_iff.1 h
  obtain ⟨r, hr, -⟩ := Option.bind_eq_some_iff.1 h
  exact ⟨r, wordRange_eq_some_iff.1 hr⟩

theorem isSome_contextInLine_iff : (contextInLine line column).isSome = true ↔
    ∃ r, IsRun isIdentifierChar line r ∧ r.Touches column ∧ InNamedWord line r := by
  rw [Option.isSome_iff_exists]
  constructor
  · rintro ⟨context, hcontext⟩
    obtain ⟨r, hr, hc⟩ := exists_isRun_of_contextInLine hcontext
    exact ⟨r, hr, hc, ((contextInLine_of_isRun hr hc).1 hcontext).1⟩
  · rintro ⟨r, hr, hc, hnamed⟩
    exact ⟨_, (contextInLine_of_isRun hr hc).2 ⟨hnamed, rfl⟩⟩

theorem contextAt_eq_some_iff {text : String} {pos : Position} {context : Context} :
    contextAt text pos = some context ↔ ∃ line column,
      lineAndColumn text pos = some (line, column) ∧ contextInLine line column = some context := by
  rw [contextAt, Option.bind_eq_bind, Option.bind_eq_some_iff]
  exact ⟨fun ⟨⟨line, column⟩, h⟩ => ⟨line, column, h⟩, fun ⟨line, column, h⟩ => ⟨(line, column), h⟩⟩

/-! ## Tokens without a name -/

/-- The columns hold nothing but dots, but the word around them has a letter, a digit or an
    underscore: an operator stands between. -/
def GluedDots (line : List Char) (r : ColumnRange) : Prop :=
  (∀ c ∈ r.slice line, c = '.') ∧ InNamedWord line r

theorem IsRun.inNamedWord_iff (h : IsRun isIdentifierChar line r) :
    InNamedWord line r ↔ (r.slice line).any isNameChar = true ∨ GluedDots line r := by
  constructor
  · intro hnamed
    by_cases hany : (r.slice line).any isNameChar = true
    · exact .inl hany
    · refine .inr ⟨fun c hc => ?_, hnamed⟩
      have hident := h.of_mem_slice hc
      rw [isIdentifierChar, Bool.or_eq_true, beq_iff_eq] at hident
      exact hident.resolve_left fun hname => hany (List.any_eq_true.2 ⟨c, hc, hname⟩)
  · rintro (hany | hdots)
    · exact h.inNamedWord hany
    · exact hdots.2

end

/-- **Where something is completed**: where the cursor touches an identifier that has a
    letter, a digit or an underscore, or dots that an operator glues to a name. -/
theorem contextAt_isSome_iff (text : String) (pos : Position) :
    (contextAt text pos).isSome = true ↔
      ∃ line column r, lineAndColumn text pos = some (line, column) ∧
        IsRun isIdentifierChar line r ∧ r.Touches column ∧
          ((r.slice line).any isNameChar = true ∨ GluedDots line r) := by
  rw [Option.isSome_iff_exists]
  constructor
  · rintro ⟨context, h⟩
    obtain ⟨line, column, hline, hcontext⟩ := contextAt_eq_some_iff.1 h
    obtain ⟨r, hr, hc, hnamed⟩ := isSome_contextInLine_iff.1 (Option.isSome_of_eq_some hcontext)
    exact ⟨line, column, r, hline, hr, hc, hr.inNamedWord_iff.1 hnamed⟩
  · rintro ⟨line, column, r, hline, hr, hc, hnamed⟩
    have hsome := isSome_contextInLine_iff.2 ⟨r, hr, hc, hr.inNamedWord_iff.2 hnamed⟩
    obtain ⟨context, hcontext⟩ := Option.isSome_iff_exists.1 hsome
    exact ⟨context, contextAt_eq_some_iff.2 ⟨line, column, hline, hcontext⟩⟩

/-- Behind the operator `|.` and a name, the dot is completed. -/
theorem dot_completed_behind_operator :
    let line := "x|.".toList
    let dot : ColumnRange := ⟨2, 3⟩
    lineAndColumn "x|." ⟨0, 3⟩ = some (line, 3) ∧ IsRun isIdentifierChar line dot ∧
      dot.Touches 3 ∧ (dot.slice line).any isNameChar = false ∧
      contextAt "x|." ⟨0, 3⟩ = some (.value "") := by
  intro line dot
  have hdot : wordRange isIdentifierChar line 3 = some dot := by decide +kernel
  obtain ⟨hrun, htouches⟩ := wordRange_eq_some_iff.1 hdot
  exact ⟨by decide +kernel, hrun, htouches, by decide +kernel, by decide +kernel⟩

end ElmAssist.Completion
