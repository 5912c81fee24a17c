/-
  How versions and ranges are written.

  * `Version.IsWritten`: three decimal numbers with dots between them; `IsPart` says what each of
    them may look like, and that it has to lie below `2 ^ 64`.
  * `VersionRange.IsWritten`: five words, which are a version, a comparison, `v`, a comparison and a
    version.
  * `parse?_iff_isWritten`: what is so written is read, and nothing else; and a range holds the
    versions between its ends, which belong to it or not as its comparisons say.
-/
import ElmAssist.Proofs.Text.Split
import ElmAssist.Proofs.Versions
import Mathlib.Data.Nat.Digits.Defs

namespace ElmAssist

namespace Version

/-! ## Numbers -/

/-- The value of a digit. -/
def digit (c : Char) : ℕ :=
  c.toNat - '0'.toNat

/-- The number that a list of digits denotes in decimal, the most significant one first. -/
def decimal (digits : List Char) : ℕ :=
  Nat.ofDigits 10 (digits.reverse.map digit)

theorem decimal_cons (c : Char) (digits : List Char) :
    decimal (c :: digits) = 10 ^ digits.length * digit c + decimal digits := by
  rw [decimal, decimal, List.reverse_cons, List.map_append, Nat.ofDigits_append, List.length_map,
    List.length_reverse, List.map_singleton, Nat.ofDigits_singleton, Nat.add_comm]

variable {acc n : ℕ} {cs : List Char}

/-- The digits in front count as much as their place says. -/
theorem digitsValue_eq_some_iff : digitsValue acc cs = some n ↔
    (∀ c ∈ cs, c.isDigit = true) ∧ n = 10 ^ cs.length * acc + decimal cs := by
  induction cs generalizing acc with
  | nil =>
    rw [digitsValue, Option.some.injEq, eq_comm]
    simp [decimal]
  | cons c cs ih =>
    rw [digitsValue, List.forall_mem_cons]
    split
    · next hc =>
      rw [ih, decimal_cons, List.length_cons, pow_succ]
      have hvalue : 10 ^ cs.length * (10 * acc + (c.toNat - '0'.toNat)) + decimal cs =
          10 ^ cs.length * 10 * acc + (10 ^ cs.length * digit c + decimal cs) := by
        rw [digit]; ring
      rw [hvalue, and_iff_right hc]
    · next hc => simp [hc]

/-! ## Parts -/

/-- The text of a part of a version: a decimal number below `2 ^ 64`, of any length, that may have
    a `+` in front. -/
structure IsPart (text : List Char) (n : ℕ) : Prop where
  digits : ∃ digits, (text = digits ∨ text = '+' :: digits) ∧ digits ≠ [] ∧
    (∀ c ∈ digits, '0' ≤ c ∧ c ≤ '9') ∧ n = decimal digits
  lt : n < 2 ^ 64

theorem isDigit_iff {c : Char} : c.isDigit = true ↔ '0' ≤ c ∧ c ≤ '9' := by
  rw [Char.isDigit, Bool.and_eq_true, decide_eq_true_eq, decide_eq_true_eq]
  rfl

/-- What is left of a part without its sign. -/
theorem filter_digitsValue_eq_some_iff {digits : List Char} :
    (if digits.isEmpty then none else (digitsValue 0 digits).filter (· < partBound)) = some n ↔
      digits ≠ [] ∧ (∀ c ∈ digits, '0' ≤ c ∧ c ≤ '9') ∧ n = decimal digits ∧ n < 2 ^ 64 := by
  have hbound : partBound = 2 ^ 64 := rfl
  split
  · next hempty => simp [List.isEmpty_iff.1 hempty]
  · next hempty =>
    rw [Option.filter_eq_some_iff, digitsValue_eq_some_iff, Nat.mul_zero, Nat.zero_add,
      decide_eq_true_eq, hbound, and_assoc]
    simp only [isDigit_iff]
    exact (and_iff_right fun hnil => hempty (List.isEmpty_iff.2 hnil)).symm

theorem part?_eq_some_iff {text : List Char} : part? text = some n ↔ IsPart text n := by
  constructor
  · intro h
    rw [part?] at h
    obtain ⟨hne, hdigits, hn, hlt⟩ := filter_digitsValue_eq_some_iff.1 h
    refine ⟨⟨_, ?_, hne, hdigits, hn⟩, hlt⟩
    split
    · next hplus =>
      obtain ⟨digits, rfl⟩ := List.head?_eq_some_iff.1 hplus
      exact .inr rfl
    · exact .inl rfl
  · rintro ⟨⟨digits, htext, hne, hdigits, hn⟩, hlt⟩
    have hread := filter_digitsValue_eq_some_iff.2 ⟨hne, hdigits, hn, hlt⟩
    rcases htext with rfl | rfl
    · -- A part that starts with a digit has no sign.
      have hsign : text.head? ≠ some '+' := fun hplus =>
        absurd (hdigits '+' (List.mem_of_mem_head? hplus)) (by decide)
      rw [part?, if_neg hsign]
      exact hread
    · exact hread

theorem IsPart.not_mem_dot {text : List Char} (h : IsPart text n) : '.' ∉ text := by
  obtain ⟨digits, htext, -, hdigits, -⟩ := h.digits
  have hdot : '.' ∉ digits := fun hmem => absurd (hdigits '.' hmem) (by decide)
  rcases htext with rfl | rfl
  · exact hdot
  · exact List.not_mem_cons_of_ne_of_not_mem (by decide) hdot

/-! ## Versions -/

/-- The text of a version: three parts with dots between them. -/
def IsWritten (s : String) (v : Version) : Prop :=
  ∃ major minor patch : List Char, s.toList = major ++ '.' :: (minor ++ '.' :: patch) ∧
    IsPart major v.major ∧ IsPart minor v.minor ∧ IsPart patch v.patch

theorem splitList_eq_iff {cs a b c : List Char} : Text.splitList '.' cs = [a, b, c] ↔
    cs = a ++ '.' :: (b ++ '.' :: c) ∧ '.' ∉ a ∧ '.' ∉ b ∧ '.' ∉ c := by
  constructor
  · intro h
    have hjoin := Text.joinList_splitList '.' cs
    have hmem : ∀ piece ∈ [a, b, c], '.' ∉ piece := fun piece hpiece =>
      Text.not_mem_of_mem_splitList (h ▸ hpiece)
    rw [h] at hjoin
    exact ⟨hjoin.symm, by simpa using hmem⟩
  · rintro ⟨rfl, ha, hb, hc⟩
    rw [Text.splitList_append, Text.splitList_append, Text.splitList_of_not_mem ha,
      Text.splitList_of_not_mem hb, Text.splitList_of_not_mem hc]
    rfl

theorem parse?_eq_some_iff {s : String} {v : Version} : parse? s = some v ↔ IsWritten s v := by
  constructor
  · intro h
    rw [parse?] at h
    split at h
    · next a b c hs =>
      simp only [Option.bind_eq_bind, Option.bind_eq_some_iff, Option.pure_def,
        Option.some.injEq] at h
      obtain ⟨major, hmajor, minor, hminor, patch, hpatch, rfl⟩ := h
      exact ⟨a, b, c, (splitList_eq_iff.1 hs).1, part?_eq_some_iff.1 hmajor,
        part?_eq_some_iff.1 hminor, part?_eq_some_iff.1 hpatch⟩
    · cases h
  · rintro ⟨a, b, c, hs, hmajor, hminor, hpatch⟩
    have hpieces := splitList_eq_iff.2
      ⟨hs, hmajor.not_mem_dot, hminor.not_mem_dot, hpatch.not_mem_dot⟩
    rw [parse?, hpieces]
    simp only [part?_eq_some_iff.2 hmajor, part?_eq_some_iff.2 hminor, part?_eq_some_iff.2 hpatch]
    rfl

end Version

namespace VersionRange

/-! ## Ranges -/

/-- A comparison, as it is written. -/
def comparison (inclusive : Bool) : String :=
  if inclusive then "<=" else "<"

theorem inclusive?_eq_some_iff {op : String} {b : Bool} :
    inclusive? op = some b ↔ op = comparison b := by
  constructor
  · intro h
    rw [inclusive?.eq_def] at h
    split at h <;> cases h <;> rfl
  · rintro rfl
    cases b <;> rfl

/-- The text of a range: five words, of which the first and the last are versions. -/
def IsWritten (s : String) (r : VersionRange) : Prop :=
  ∃ lower upper, Text.AreWords s.toList
      [lower, comparison r.lowerInclusive, "v", comparison r.upperInclusive, upper] ∧
    Version.IsWritten lower r.lower ∧ Version.IsWritten upper r.upper

theorem parse?_eq_some_iff {s : String} {r : VersionRange} :
    parse? s = some r ↔ IsWritten s r := by
  constructor
  · intro h
    rw [parse?] at h
    split at h
    · next lower lowerOp v upperOp upper hs =>
      simp only [Option.bind_eq_bind, Option.bind_eq_some_iff, Option.guard_eq_some',
        Option.pure_def, Option.some.injEq] at h
      obtain ⟨-, rfl, low, hlow, lowIncl, hlowIncl, up, hup, upIncl, hupIncl, rfl⟩ := h
      obtain rfl := inclusive?_eq_some_iff.1 hlowIncl
      obtain rfl := inclusive?_eq_some_iff.1 hupIncl
      exact ⟨lower, upper, Text.words_eq_iff.1 hs, Version.parse?_eq_some_iff.1 hlow,
        Version.parse?_eq_some_iff.1 hup⟩
    · cases h
  · rintro ⟨lower, upper, hwords, hlower, hupper⟩
    rw [parse?, Text.words_eq_iff.2 hwords]
    simp only [Version.parse?_eq_some_iff.2 hlower, Version.parse?_eq_some_iff.2 hupper,
      inclusive?_eq_some_iff.2 rfl]
    rfl

theorem contains_iff {r : VersionRange} {v : Version} : r.contains v = true ↔
    (r.lower.key < v.key ∨ r.lowerInclusive = true ∧ r.lower.key = v.key) ∧
      (v.key < r.upper.key ∨ r.upperInclusive = true ∧ v.key = r.upper.key) := by
  have hend : ∀ (inclusive : Bool) (a b : Version),
      (if inclusive then a.atMost b else a.below b) = true ↔
        a.key < b.key ∨ inclusive = true ∧ a.key = b.key := by
    intro inclusive a b
    cases inclusive with
    | true => rw [if_pos rfl, Version.atMost_iff, le_iff_lt_or_eq, and_iff_right rfl]
    | false => simp [Version.below_iff]
  rw [contains, Bool.and_eq_true, hend, hend]

end VersionRange

/-! ## What is read -/

/-- **Versions and ranges are read where they are written**, and nowhere else.  A range holds the
    versions between its ends in lexicographic order, and each end if the comparison beside it is
    `<=`. -/
theorem parse?_iff_isWritten (s : String) :
    (∀ v, Version.parse? s = some v ↔ Version.IsWritten s v) ∧
    (∀ r, VersionRange.parse? s = some r ↔ VersionRange.IsWritten s r) ∧
    ∀ (r : VersionRange) (v : Version), r.contains v = true ↔
      (r.lower.key < v.key ∨ r.lowerInclusive = true ∧ r.lower.key = v.key) ∧
        (v.key < r.upper.key ∨ r.upperInclusive = true ∧ v.key = r.upper.key) :=
  ⟨fun _ => Version.parse?_eq_some_iff, fun _ => VersionRange.parse?_eq_some_iff,
    fun _ _ => VersionRange.contains_iff⟩

/-- The greatest number that a part can be, with a sign and zeros in front; and the next one. -/
example : Version.parse? "+0.0018446744073709551615.7" = some ⟨0, 18446744073709551615, 7⟩ ∧
    Version.parse? "0.18446744073709551616.7" = none := by
  decide

end ElmAssist
