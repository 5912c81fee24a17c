/-
  The word under the cursor.

  A run is a range of columns whose characters satisfy a predicate, and that cannot be made
  longer at either end.

  * `IsRun.covers`: a run lies in the run of every larger class at the same column; so a
    column touches at most one run of a class (`IsRun.eq_of_touches`).
  * `wordRange_eq_some_iff`: `wordRange` finds the run that a column touches.
  * `wordRange_eq_none_iff`: where there is none.
  * `wordRange_isMaximalRun`: what is found, where, and that every column of a run finds it.
-/
import Mathlib.Data.List.DropRight
import Mathlib.Tactic.ByContra
import ElmAssist.Completion.Context

namespace ElmAssist.Completion

open Text

/-! ## Runs -/

/-- A cursor at the column stands in the range or at one of its ends. -/
def ColumnRange.Touches (r : ColumnRange) (column : Nat) : Prop :=
  r.start ≤ column ∧ column ≤ r.stop

/-- The range has all columns of another one. -/
def ColumnRange.Covers (r inner : ColumnRange) : Prop :=
  r.start ≤ inner.start ∧ inner.stop ≤ r.stop

theorem ColumnRange.Covers.touches {r r' : ColumnRange} {column : Nat} (h : r'.Covers r)
    (hc : r.Touches column) : r'.Touches column :=
  ⟨h.1.trans hc.1, hc.2.trans h.2⟩

/-- A maximal range of columns of a line whose characters satisfy `p`. -/
structure IsRun (p : Char → Bool) (cs : List Char) (r : ColumnRange) : Prop where
  nonempty : r.start < r.stop
  stop_le : r.stop ≤ cs.length
  inside : ∀ i c, r.start ≤ i → i < r.stop → cs[i]? = some c → p c = true
  before : ∀ i c, i + 1 = r.start → cs[i]? = some c → p c = false
  behind : ∀ c, cs[r.stop]? = some c → p c = false

section
variable {p q : Char → Bool} {cs : List Char} {r r' : ColumnRange} {column : Nat}

theorem mem_slice {c : Char} :
    c ∈ r.slice cs ↔ ∃ i, r.start ≤ i ∧ i < r.stop ∧ cs[i]? = some c := by
  rw [ColumnRange.slice, List.mem_iff_getElem?]
  constructor
  · rintro ⟨i, hi⟩
    rw [List.getElem?_take, List.getElem?_drop] at hi
    split at hi
    · exact ⟨r.start + i, by omega, by omega, hi⟩
    · cases hi
  · rintro ⟨i, hstart, hstop, hi⟩
    refine ⟨i - r.start, ?_⟩
    rw [List.getElem?_take_of_lt (by omega), List.getElem?_drop, Nat.add_sub_cancel' hstart]
    exact hi

theorem IsRun.of_mem_slice (h : IsRun p cs r) {c : Char} (hc : c ∈ r.slice cs) :
    p c = true := by
  obtain ⟨i, hstart, hstop, hi⟩ := mem_slice.1 hc
  exact h.inside i c hstart hstop hi

/-- A word of a line whose neighbours are not in the class. -/
theorem IsRun.of_append {front word back : List Char} (hne : word ≠ [])
    (hword : ∀ c ∈ word, p c = true) (hfront : ∀ c, front.getLast? = some c → p c = false)
    (hback : ∀ c, back.head? = some c → p c = false) :
    IsRun p (front ++ (word ++ back)) ⟨front.length, front.length + word.length⟩ := by
  constructor <;> dsimp only
  case nonempty =>
    have hlength := List.length_pos_iff.2 hne
    omega
  case stop_le =>
    simp only [List.length_append]
    omega
  case inside =>
    intro i c hstart hstop hi
    rw [List.getElem?_append_right hstart, List.getElem?_append_left (by omega)] at hi
    exact hword c (List.mem_of_getElem? hi)
  case before =>
    intro i c hlast hi
    rw [List.getElem?_append_left (by omega)] at hi
    apply hfront
    rw [List.getLast?_eq_getElem?, ← hlast, Nat.add_sub_cancel, hi]
  case behind =>
    intro c hc
    rw [List.getElem?_append_right (by omega), List.getElem?_append_right (by omega)] at hc
    apply hback
    rw [List.head?_eq_getElem?, ← hc, Nat.add_sub_cancel_left, Nat.sub_self]

theorem IsRun.exists_inside (h : IsRun p cs r) {i : Nat} (hstart : r.start ≤ i)
    (hstop : i < r.stop) : ∃ c, cs[i]? = some c ∧ p c = true := by
  have hlength := h.stop_le
  have hget := List.getElem?_eq_getElem (show i < cs.length by omega)
  exact ⟨_, hget, h.inside i _ hstart hstop hget⟩

/-- **Wider classes have wider runs**: a run that a column touches lies in the run of a
    larger class that the column touches. -/
theorem IsRun.covers (hpq : ∀ c, p c = true → q c = true) (h : IsRun p cs r)
    (h' : IsRun q cs r') (hc : r.Touches column) (hc' : r'.Touches column) : r'.Covers r := by
  obtain ⟨hstart, hstop⟩ := hc
  obtain ⟨hstart', hstop'⟩ := hc'
  constructor
  · by_contra hlt
    obtain ⟨c, hget, hp⟩ := h.exists_inside (i := r'.start - 1) (by omega) (by omega)
    have hq := h'.before _ c (by omega) hget
    exact Bool.false_ne_true (hq.symm.trans (hpq c hp))
  · by_contra hlt
    obtain ⟨c, hget, hp⟩ := h.exists_inside (i := r'.stop) (by omega) (by omega)
    exact Bool.false_ne_true ((h'.behind c hget).symm.trans (hpq c hp))

/-- **A column touches one run** at most. -/
theorem IsRun.eq_of_touches (h : IsRun p cs r) (h' : IsRun p cs r') (hc : r.Touches column)
    (hc' : r'.Touches column) : r = r' := by
  obtain ⟨hstart', hstop'⟩ := h.covers (fun _ => id) h' hc hc'
  obtain ⟨hstart, hstop⟩ := h'.covers (fun _ => id) h hc' hc
  cases r
  cases r'
  simp only [ColumnRange.mk.injEq]
  exact ⟨Nat.le_antisymm hstart hstart', Nat.le_antisymm hstop' hstop⟩

/-! ## Finding the run at a column -/

/-- A line at a column, with what satisfies the predicate directly on either side. -/
theorem exists_cut (p : Char → Bool) (h : column ≤ cs.length) :
    ∃ front left right back, cs = front ++ (left ++ right ++ back) ∧
      front.length + left.length = column ∧ (∀ c ∈ left ++ right, p c = true) ∧
      (∀ c, front.getLast? = some c → p c = false) ∧ (∀ c, back.head? = some c → p c = false) ∧
      wordRange p cs column =
        if left.length + right.length = 0 then none
        else some ⟨front.length, front.length + (left ++ right).length⟩ := by
  have htake : (cs.take column).rdropWhile p ++ (cs.take column).rtakeWhile p =
      cs.take column := List.rdropWhile_append_rtakeWhile ..
  have hdrop : (cs.drop column).takeWhile p ++ (cs.drop column).dropWhile p =
      cs.drop column := List.takeWhile_append_dropWhile
  have hcolumn : ((cs.take column).rdropWhile p).length +
      ((cs.take column).rtakeWhile p).length = column := by
    rw [← List.length_append, htake, List.length_take_of_le h]
  refine ⟨(cs.take column).rdropWhile p, (cs.take column).rtakeWhile p,
    (cs.drop column).takeWhile p, (cs.drop column).dropWhile p, ?_, hcolumn, ?_, ?_, ?_, ?_⟩
  · rw [List.append_assoc, hdrop, ← List.append_assoc, htake, List.take_append_drop]
  · intro c hc
    rcases List.mem_append.1 hc with hc | hc
    · exact List.mem_rtakeWhile_imp hc
    · exact List.mem_takeWhile_imp hc
  · intro c hc
    have hnot := List.head?_dropWhile_not p (cs.take column).reverse
    rw [List.rdropWhile, List.getLast?_reverse] at hc
    rwa [hc] at hnot
  · intro c hc
    have hnot := List.head?_dropWhile_not p (cs.drop column)
    rwa [hc] at hnot
  · rw [wordRange, if_neg (by omega), List.length_append]
    have hleft : ((cs.take column).reverse.takeWhile p).length =
        ((cs.take column).rtakeWhile p).length := List.length_reverse.symm
    simp only [hleft]
    split
    · rfl
    · rw [Option.some.injEq, ColumnRange.mk.injEq]
      omega

theorem isRun_of_wordRange (h : wordRange p cs column = some r) :
    IsRun p cs r ∧ r.Touches column := by
  have hcolumn : column ≤ cs.length := by
    by_contra hlt
    rw [wordRange, if_pos (by omega)] at h
    cases h
  obtain ⟨front, left, right, back, rfl, rfl, hword, hfront, hback, hrange⟩ :=
    exists_cut p hcolumn
  rw [hrange] at h
  split at h
  · cases h
  · next hsome =>
    obtain rfl := Option.some.inj h
    have hne : left ++ right ≠ [] := by
      rw [← List.length_pos_iff, List.length_append]
      omega
    refine ⟨.of_append hne hword hfront hback, ?_, ?_⟩
    · exact Nat.le_add_right ..
    · dsimp only
      rw [List.length_append]
      omega

theorem length_takeWhile_eq_zero_iff :
    (cs.takeWhile p).length = 0 ↔ ∀ c, cs.head? = some c → p c = false := by
  cases cs with
  | nil => simp
  | cons c cs => by_cases hc : p c = true <;> simp [hc]

/-- There is no word where neither neighbour of the column is a character of words. -/
theorem wordRange_eq_none_iff :
    wordRange p cs column = none ↔ cs.length < column ∨
      (∀ i c, i + 1 = column → cs[i]? = some c → p c = false) ∧
        ∀ c, cs[column]? = some c → p c = false := by
  by_cases hlt : cs.length < column
  · rw [wordRange, if_pos hlt]
    exact iff_of_true rfl (.inl hlt)
  have hleft : ((cs.take column).reverse.takeWhile p).length = 0 ↔
      ∀ i c, i + 1 = column → cs[i]? = some c → p c = false := by
    rw [length_takeWhile_eq_zero_iff, List.head?_reverse, List.getLast?_eq_getElem?,
      List.length_take_of_le (by omega), List.getElem?_take]
    constructor
    · rintro h i c rfl hi
      exact h c (by simpa using hi)
    · intro h c hc
      split at hc
      · exact h (column - 1) c (by omega) hc
      · cases hc
  have hright : ((cs.drop column).takeWhile p).length = 0 ↔
      ∀ c, cs[column]? = some c → p c = false := by
    rw [length_takeWhile_eq_zero_iff, List.head?_drop]
  rw [wordRange, if_neg hlt, or_iff_right hlt, ← hleft, ← hright, ← Nat.add_eq_zero_iff]
  dsimp only
  split
  · next hzero => exact iff_of_true rfl hzero
  · next hzero => exact iff_of_false (by simp) hzero

/-- Where a column touches a run, there is a word of every larger class. -/
theorem IsRun.exists_wordRange (hpq : ∀ c, p c = true → q c = true) (h : IsRun p cs r)
    (hc : r.Touches column) : ∃ r', wordRange q cs column = some r' := by
  obtain ⟨hstart, hstop⟩ := hc
  have hne := h.nonempty
  have hlength := h.stop_le
  by_contra hnone
  rw [← Option.ne_none_iff_exists', not_not] at hnone
  obtain ⟨hleft, hright⟩ := (wordRange_eq_none_iff.1 hnone).resolve_left (by omega)
  -- The run has a column directly in front of the cursor or directly behind it.
  by_cases hfirst : r.start = column
  · obtain ⟨c, hget, hp⟩ := h.exists_inside (i := column) (by omega) (by omega)
    exact Bool.false_ne_true ((hright c hget).symm.trans (hpq c hp))
  · obtain ⟨c, hget, hp⟩ := h.exists_inside (i := column - 1) (by omega) (by omega)
    have hq := hleft _ c (by omega) hget
    exact Bool.false_ne_true (hq.symm.trans (hpq c hp))

/-- **The word under the cursor** is the run that the column touches. -/
theorem wordRange_eq_some_iff :
    wordRange p cs column = some r ↔ IsRun p cs r ∧ r.Touches column := by
  constructor
  · exact isRun_of_wordRange
  · rintro ⟨h, hc⟩
    obtain ⟨r', hr'⟩ := h.exists_wordRange (fun _ => id) hc
    obtain ⟨h', hc'⟩ := isRun_of_wordRange hr'
    rw [hr', h.eq_of_touches h' hc hc']

/-- A run lies in a run of every larger class. -/
theorem IsRun.exists_covers (hpq : ∀ c, p c = true → q c = true) (h : IsRun p cs r) :
    ∃ r', IsRun q cs r' ∧ r'.Covers r := by
  have hc : r.Touches r.start := ⟨le_rfl, h.nonempty.le⟩
  obtain ⟨r', hr'⟩ := h.exists_wordRange hpq hc
  obtain ⟨h', hc'⟩ := isRun_of_wordRange hr'
  exact ⟨r', h', h.covers hpq h' hc hc'⟩

end

/-! ## Names and words -/

theorem isWordChar_of_isIdentifierChar (c : Char) (h : isIdentifierChar c = true) :
    isWordChar c = true := by
  rw [isWordChar, h, Bool.true_or]

/-- **Maximal runs are found.**  Nothing is found behind the line, and where neither neighbour of
    the column satisfies the predicate.  Elsewhere it is the only run that the column touches, and
    all other columns that touch it find it as well.  The name at a column lies in the word at the
    column. -/
theorem wordRange_isMaximalRun (p : Char → Bool) (cs : List Char) (column : Nat) :
    (wordRange p cs column = none ↔ cs.length < column ∨
      (∀ i c, i + 1 = column → cs[i]? = some c → p c = false) ∧
        ∀ c, cs[column]? = some c → p c = false) ∧
    (wordRange p cs column ≠ none → ∃ r, wordRange p cs column = some r ∧
      (IsRun p cs r ∧ r.Touches column) ∧
      (∀ r', IsRun p cs r' → r'.Touches column → r' = r) ∧
      ∀ c, r.Touches c → wordRange p cs c = some r) ∧
    ∀ name, wordRange isIdentifierChar cs column = some name →
      ∃ word, wordRange isWordChar cs column = some word ∧ word.Covers name := by
  refine ⟨wordRange_eq_none_iff, fun hsome => ?_, fun name hname => ?_⟩
  · obtain ⟨r, hr⟩ := Option.ne_none_iff_exists'.1 hsome
    obtain ⟨hrun, hc⟩ := wordRange_eq_some_iff.1 hr
    refine ⟨r, hr, ⟨hrun, hc⟩, ?_, ?_⟩
    · intro r' hrun' hc'
      exact hrun'.eq_of_touches hrun hc' hc
    · intro c htouches
      exact wordRange_eq_some_iff.2 ⟨hrun, htouches⟩
  · obtain ⟨hrun, hc⟩ := wordRange_eq_some_iff.1 hname
    obtain ⟨word, hword⟩ := hrun.exists_wordRange isWordChar_of_isIdentifierChar hc
    obtain ⟨hrun', hc'⟩ := wordRange_eq_some_iff.1 hword
    exact ⟨word, hword, hrun.covers isWordChar_of_isIdentifierChar hrun' hc hc'⟩

/-- A qualified name directly behind an operator, at a column within it and at its ends. -/
theorem wordRange_isMaximalRun_glued :
    let line := "xs|>List.ma".toList
    let name : ColumnRange := ⟨4, 11⟩
    wordRange isIdentifierChar line 8 ≠ none ∧ IsRun isIdentifierChar line name ∧
      (∀ r, IsRun isIdentifierChar line r → r.Touches 8 → r = name) ∧
      wordRange isIdentifierChar line 4 = some name ∧
      wordRange isIdentifierChar line 11 = some name ∧
      ∃ word, wordRange isWordChar line 8 = some word ∧ word.Covers name := by
  intro line name
  have hname : wordRange isIdentifierChar line 8 = some name := by decide +kernel
  have hsome : wordRange isIdentifierChar line 8 ≠ none := by simp [hname]
  obtain ⟨-, hfound, hcovered⟩ := wordRange_isMaximalRun isIdentifierChar line 8
  obtain ⟨r, hr, ⟨hrun, -⟩, hunique, hsame⟩ := hfound hsome
  obtain rfl : r = name := Option.some.inj (hr.symm.trans hname)
  exact ⟨hsome, hrun, hunique, hsame 4 ⟨le_rfl, by decide⟩, hsame 11 ⟨by decide, le_rfl⟩,
    hcovered _ hname⟩

end ElmAssist.Completion
