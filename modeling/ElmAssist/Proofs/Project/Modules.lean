/-
  The modules of a project.

  `mem_workspaceModules`: the names that are listed for a project are those of the source
  files that a search of its source directories comes to.
-/
import ElmAssist.Proofs.Disk.Search
import ElmAssist.Resolver
import Mathlib.Data.List.Basic
import Mathlib.Data.Option.Basic

namespace ElmAssist

/-- Taking out neighbours that are equal loses no element. -/
theorem mem_eraseReps {α : Type} [BEq α] [LawfulBEq α] {x : α} {l : List α} :
    x ∈ l.eraseReps ↔ x ∈ l := by
  have hloop : ∀ (as : List α) (a : α) (acc : List α),
      x ∈ List.eraseRepsBy.loop (· == ·) a as acc ↔ x ∈ acc ∨ x = a ∨ x ∈ as := by
    intro as
    induction as with
    | nil => simp [List.eraseRepsBy.loop, or_comm]
    | cons b as ih =>
      intro a acc
      rw [List.eraseRepsBy.loop]
      cases hab : a == b with
      | true =>
        obtain rfl : a = b := by simpa using hab
        rw [ih, List.mem_cons]
        simp
      | false =>
        rw [ih, List.mem_cons, List.mem_cons, or_assoc, or_left_comm]
  cases l with
  | nil => rfl
  | cons a as => simpa [List.eraseReps, List.eraseRepsBy] using hloop as a []

/-! ## Names of files -/

/-- A source directory that is a file itself is no module. -/
theorem moduleName?_self (dir : Path) : moduleName? dir dir = none := by
  have h : dir.below? dir = some [] := List.isPrefixOf?_eq_some_iff_append_eq.2 (List.append_nil _)
  rw [moduleName?, h]
  rfl

/-- Only files with the extension of source files are modules. -/
theorem accepts_of_moduleName? {dir file : Path} {m : String} (h : moduleName? dir file = some m) :
    sourcePattern.accepts file = true := by
  simp only [moduleName?, bind, Option.bind_eq_some_iff] at h
  obtain ⟨components, hbelow, segments, hsegments, -⟩ := h
  unfold moduleSegments? at hsegments
  split at hsegments
  · next name hlast =>
    split at hsegments
    · next stem ext hsplit =>
      split at hsegments
      · next hext =>
        -- The last component below the directory is the last one of the file.
        have hfile : file.components.getLast? = some (.name name) := by
          rw [← List.isPrefixOf?_eq_some_iff_append_eq.1 hbelow, List.getLast?_append, hlast]
          rfl
        have hextension : file.extension = some sourceExtension := by
          rw [Path.extension, Path.fileName, hfile]
          simp [hsplit, hext]
        simp [GlobPattern.accepts, sourcePattern, hextension]
      · cases hsegments
    · cases hsegments
  · cases hsegments

/-! ## Listing modules -/

/-- **The modules of a project** are those of the files below its source directories. -/
theorem mem_workspaceModules {disk : Disk} {project : Project} {m : String} :
    m ∈ project.workspaceModules disk ↔ ∃ dir ∈ project.sourceDirectories, ∃ entries file,
      disk.directory? dir = some entries ∧ FileBelow sourcePattern.Enters dir entries file ∧
        moduleName? dir file = some m := by
  simp only [Project.workspaceModules, mem_eraseReps, List.mem_mergeSort, List.mem_flatMap,
    List.mem_filterMap, Disk.glob, List.flatMap_cons, List.flatMap_nil, List.append_nil,
    Disk.mem_globRoot]
  constructor
  · rintro ⟨dir, hdir, file, ⟨-, ⟨-, rfl⟩ | ⟨entries, hentries, hbelow⟩⟩, hm⟩
    · rw [moduleName?_self] at hm
      cases hm
    · exact ⟨dir, hdir, entries, file, hentries, hbelow, hm⟩
  · rintro ⟨dir, hdir, entries, file, hentries, hbelow, hm⟩
    exact ⟨dir, hdir, file, ⟨accepts_of_moduleName? hm, .inr ⟨entries, hentries, hbelow⟩⟩, hm⟩

end ElmAssist
