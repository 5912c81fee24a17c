/-
  Choosing a compiler.

  Versions are in lexicographic order, which is that of their parts as a triple (`Version.key`).

  * `exists_of_greatest`: the greatest of some versions is the last one of those that are at
    least as great as any other.
  * `compilerVersion_cases`: what is chosen among the compilers that are installed.
  * `compilerVersion_best`: it is the last name of the best version, and its version does not
    depend on the order in which the compilers are listed.
-/
import ElmAssist.Proofs.Text.Words
import ElmAssist.Version
import Mathlib.Data.Prod.Lex

namespace ElmAssist

namespace Version

/-! ## The order of versions -/

/-- The parts of a version, the most significant first. -/
def key (v : Version) : ℕ ×ₗ ℕ ×ₗ ℕ :=
  toLex (v.major, toLex (v.minor, v.patch))

theorem key_injective : Function.Injective key := by
  rintro ⟨a, b, c⟩ ⟨a', b', c'⟩ h
  simpa [key] using h

variable {v w : Version}

theorem key_lt_iff : v.key < w.key ↔ v.major < w.major ∨ v.major = w.major ∧
    (v.minor < w.minor ∨ v.minor = w.minor ∧ v.patch < w.patch) := by
  simp [key, Prod.Lex.toLex_lt_toLex]

theorem below_iff : v.below w = true ↔ v.key < w.key := by
  simp only [below, compare, key_lt_iff, beq_iff_eq, Ordering.then_eq_lt, Nat.compare_eq_lt,
    Nat.compare_eq_eq]

/-- The order of versions is that of their parts. -/
theorem atMost_iff : v.atMost w = true ↔ v.key ≤ w.key := by
  rw [← not_lt, key_lt_iff]
  simp only [atMost, compare, bne_iff_ne, ne_eq, Ordering.then_eq_gt, Nat.compare_eq_gt,
    Nat.compare_eq_eq]
  constructor
  · intro h hlt
    omega
  · intro h hgt
    omega

end Version

/-! ## The greatest version -/

variable {l : List (Version × String)} {a : Version × String}

theorem greatest_eq_none_iff : greatest l = none ↔ l = [] := by
  cases l with
  | nil => simp [greatest]
  | cons b rest =>
    rw [greatest]
    split
    · simp
    · split <;> simp

/-- **The greatest version**: no version in front of it is greater, and all behind it are less. -/
theorem exists_of_greatest (h : greatest l = some a) : ∃ front back, l = front ++ a :: back ∧
    (∀ b ∈ front, b.1.key ≤ a.1.key) ∧ ∀ b ∈ back, b.1.key < a.1.key := by
  induction l generalizing a with
  | nil => cases h
  | cons b rest ih =>
    rw [greatest] at h
    split at h
    · next hrest =>
      obtain rfl := Option.some.inj h
      exact ⟨[], rest, rfl, by simp, by simp [greatest_eq_none_iff.1 hrest]⟩
    · next c hrest =>
      obtain ⟨front, back, rfl, hfront, hback⟩ := ih hrest
      split at h
      · next hle =>
        obtain rfl := Option.some.inj h
        exact ⟨b :: front, back, rfl,
          List.forall_mem_cons.2 ⟨Version.atMost_iff.1 hle, hfront⟩, hback⟩
      · next hgt =>
        obtain rfl := Option.some.inj h
        -- The first version is greater than the greatest one of the others.
        have hlt : c.1.key < b.1.key := by
          rw [← not_le, ← Version.atMost_iff]
          exact hgt
        refine ⟨[], front ++ c :: back, rfl, by simp, fun d hd => ?_⟩
        rcases List.mem_append.1 hd with hd | hd
        · exact (hfront d hd).trans_lt hlt
        · rcases List.mem_cons.1 hd with rfl | hd
          · exact hlt
          · exact (hback d hd).trans hlt

/-! ## Installed compilers -/

/-- A name denotes a version in a range. -/
def VersionRange.Names (range : VersionRange) (name : String) (v : Version) : Prop :=
  Version.parse? name = some v ∧ range.contains v = true

/-- What a constraint stands for by itself: its first word, or the whole of it if it has none. -/
def IsLowerBound (constraint bound : String) : Prop :=
  Text.IsFirstWord constraint bound ∨
    (∀ c ∈ constraint.toList, Text.isBlank c = true) ∧ bound = constraint

theorem isLowerBound_lowerBound (constraint : String) :
    IsLowerBound constraint (lowerBound constraint) := by
  rw [lowerBound, List.headD_eq_head?_getD]
  rcases Text.words_cases constraint with ⟨hnil, hblank⟩ | ⟨w, hw, hhead⟩
  · rw [hnil]
    exact .inr ⟨hblank, rfl⟩
  · rw [hhead]
    exact .inl hw

variable {range : VersionRange} {installed installed' : List String} {name constraint : String}
  {v : Version}

theorem mem_installedWithin :
    (v, name) ∈ installedWithin range installed ↔ name ∈ installed ∧ range.Names name v := by
  simp only [installedWithin, List.mem_filterMap, Option.map_eq_some_iff, Prod.mk.injEq,
    Option.filter_eq_some_iff, VersionRange.Names]
  constructor
  · rintro ⟨name, hname, v, h, rfl, rfl⟩
    exact ⟨hname, h⟩
  · rintro ⟨hname, h⟩
    exact ⟨name, hname, v, h, rfl, rfl⟩

/-- The place of a name in the range among the installed ones. -/
theorem installedWithin_eq_append {front back : List (Version × String)}
    (h : installedWithin range installed = front ++ (v, name) :: back) :
    ∃ before after, installed = before ++ name :: after ∧ range.Names name v ∧
      installedWithin range before = front ∧ installedWithin range after = back := by
  obtain ⟨first, rest, rfl, hfirst, hrest⟩ := List.filterMap_eq_append_iff.1 h
  obtain ⟨skipped, found, after, rfl, hskipped, hfound, hafter⟩ := List.filterMap_eq_cons_iff.1 hrest
  simp only [Option.map_eq_some_iff, Option.filter_eq_some_iff, Prod.mk.injEq] at hfound
  obtain ⟨v, hv, rfl, rfl⟩ := hfound
  refine ⟨first ++ skipped, after, by simp, hv, ?_, hafter⟩
  rw [installedWithin, List.filterMap_append, List.filterMap_eq_nil_iff.2 hskipped, List.append_nil]
  exact hfirst

/-- The last name of the best installed version in a range: no version in front of it is
    greater, and all behind it are less. -/
structure BestInstalled (range : VersionRange) (installed : List String) (name : String)
    (v : Version) : Prop where
  names : range.Names name v
  place : ∃ front back, installed = front ++ name :: back ∧
    (∀ other ∈ front, ∀ w, range.Names other w → w.key ≤ v.key) ∧
    ∀ other ∈ back, ∀ w, range.Names other w → w.key < v.key

namespace BestInstalled

theorem mem (h : BestInstalled range installed name v) : name ∈ installed := by
  obtain ⟨front, back, rfl, -⟩ := h.place
  simp

theorem key_le (h : BestInstalled range installed name v) {other : String} {w : Version}
    (hother : other ∈ installed) (hw : range.Names other w) : w.key ≤ v.key := by
  obtain ⟨front, back, rfl, hfront, hback⟩ := h.place
  rcases List.mem_append.1 hother with hmem | hmem
  · exact hfront other hmem w hw
  · rcases List.mem_cons.1 hmem with rfl | hmem
    · have hwv : w = v := Option.some.inj (hw.1.symm.trans h.names.1)
      rw [hwv]
    · exact (hback other hmem w hw).le

/-- The best version does not depend on the order of the names. -/
theorem eq_of_perm {name' : String} {v' : Version} (h : BestInstalled range installed name v)
    (h' : BestInstalled range installed' name' v') (hperm : installed'.Perm installed) : v' = v :=
  Version.key_injective <| le_antisymm (h.key_le (hperm.mem_iff.1 h'.mem) h'.names)
    (h'.key_le (hperm.mem_iff.2 h.mem) h.names)

end BestInstalled

/-- **What is chosen**: the best installed version in the range, and without one what the
    constraint stands for by itself. -/
theorem compilerVersion_cases (constraint : String) (installed : List String) :
    (∃ range v, VersionRange.parse? constraint = some range ∧
      BestInstalled range installed (compilerVersion constraint installed) v) ∨
    (∀ range, VersionRange.parse? constraint = some range →
      ∀ name ∈ installed, ∀ v, ¬range.Names name v) ∧
      compilerVersion constraint installed = lowerBound constraint := by
  unfold compilerVersion
  split
  · next hnone =>
    refine .inr ⟨fun range hrange => ?_, rfl⟩
    rw [hnone] at hrange
    cases hrange
  · next range hrange =>
    split
    · next v name hgreatest =>
      obtain ⟨front, back, hwithin, hfront, hback⟩ := exists_of_greatest hgreatest
      obtain ⟨before, after, rfl, hname, rfl, rfl⟩ := installedWithin_eq_append hwithin
      refine .inl ⟨range, v, hrange, hname, before, after, rfl, ?_, ?_⟩
      · exact fun other hother w hw => hfront (w, other) (mem_installedWithin.2 ⟨hother, hw⟩)
      · exact fun other hother w hw => hback (w, other) (mem_installedWithin.2 ⟨hother, hw⟩)
    · next hnone =>
      refine .inr ⟨fun range' hrange' name hname v hv => ?_, rfl⟩
      obtain rfl := Option.some.inj (hrange.symm.trans hrange')
      have hmem := mem_installedWithin.2 ⟨hname, hv⟩
      rw [greatest_eq_none_iff.1 hnone] at hmem
      cases hmem

/-- **The compiler that is chosen.**  If the constraint is a range and the version of some
    installed compiler lies in it, the last one of the greatest such versions is chosen;
    otherwise it is the first word of the constraint.  In which order the compilers are listed
    makes no difference to the version, and to its name only if a version has several. -/
theorem compilerVersion_best (constraint : String) (installed : List String) :
    (∀ range, VersionRange.parse? constraint = some range →
      (∃ name ∈ installed, ∃ v, range.Names name v) →
      ∃ v, BestInstalled range installed (compilerVersion constraint installed) v) ∧
    ((∀ range, VersionRange.parse? constraint = some range →
      ∀ name ∈ installed, ∀ v, ¬range.Names name v) →
      IsLowerBound constraint (compilerVersion constraint installed)) ∧
    ∀ installed', installed'.Perm installed →
      Version.parse? (compilerVersion constraint installed') =
        Version.parse? (compilerVersion constraint installed) ∧
      ((∀ a ∈ installed, ∀ b ∈ installed, ∀ v,
        Version.parse? a = some v → Version.parse? b = some v → a = b) →
        compilerVersion constraint installed' = compilerVersion constraint installed) := by
  refine ⟨fun range hrange => ?_, fun hnone => ?_, fun installed' hperm => ?_⟩
  · rintro ⟨name, hname, v, hv⟩
    rcases compilerVersion_cases constraint installed with ⟨range', best, hrange', h⟩ | ⟨hnone, -⟩
    · obtain rfl := Option.some.inj (hrange.symm.trans hrange')
      exact ⟨best, h⟩
    · exact absurd hv (hnone range hrange name hname v)
  · rcases compilerVersion_cases constraint installed with ⟨range, v, hrange, h⟩ | ⟨-, h⟩
    · exact absurd h.names (hnone range hrange _ h.mem v)
    · rw [h]
      exact isLowerBound_lowerBound constraint
  · rcases compilerVersion_cases constraint installed with ⟨range, v, hrange, h⟩ | ⟨hnone, h⟩ <;>
      rcases compilerVersion_cases constraint installed' with ⟨range', v', hrange', h'⟩ | ⟨hnone', h'⟩
    · obtain rfl := Option.some.inj (hrange.symm.trans hrange')
      obtain rfl := h.eq_of_perm h' hperm
      exact ⟨h'.names.1.trans h.names.1.symm, fun hdistinct =>
        hdistinct _ (hperm.mem_iff.1 h'.mem) _ h.mem _ h'.names.1 h.names.1⟩
    · exact absurd h.names (hnone' range hrange _ (hperm.mem_iff.2 h.mem) v)
    · exact absurd h'.names (hnone range' hrange' _ (hperm.mem_iff.1 h'.mem) v')
    · have heq := h'.trans h.symm
      exact ⟨by rw [heq], fun _ => heq⟩

/-- A version that is installed under two names. -/
theorem compilerVersion_best_twoSpellings :
    let constraint := "0.19.0 <= v < 0.20.0"
    let range : VersionRange := ⟨⟨0, 19, 0⟩, true, ⟨0, 20, 0⟩, false⟩
    let installed := ["0.20.0", "0.19.1", "0.019.1", "packages", "0.9.0"]
    VersionRange.parse? constraint = some range ∧ "0.19.1" ∈ installed ∧
      range.Names "0.19.1" ⟨0, 19, 1⟩ ∧ compilerVersion constraint installed = "0.019.1" ∧
      (∃ v, BestInstalled range installed (compilerVersion constraint installed) v) ∧
      installed.reverse.Perm installed ∧
      compilerVersion constraint installed.reverse = "0.19.1" ∧
      Version.parse? (compilerVersion constraint installed.reverse) =
        Version.parse? (compilerVersion constraint installed) := by
  intro constraint range installed
  have hrange : VersionRange.parse? constraint = some range := by decide
  have hmem : "0.19.1" ∈ installed := by decide
  have hname : range.Names "0.19.1" ⟨0, 19, 1⟩ := ⟨by decide, by decide⟩
  have h := compilerVersion_best constraint installed
  exact ⟨hrange, hmem, hname, by decide, h.1 range hrange ⟨_, hmem, _, hname⟩,
    installed.reverse_perm, by decide, (h.2.2 _ installed.reverse_perm).1⟩

end ElmAssist
