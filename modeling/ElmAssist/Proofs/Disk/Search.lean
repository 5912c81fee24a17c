/-
  What a search finds.

  `FileBelow enters dir entries p` says that `p` is the path of a regular file below a
  directory with these entries, in which only directories that may be entered lie on the way;
  links are not followed.  A search finds the files below its root that match.

  * `mem_globEntries`: the files that are found below a directory.
  * `lookup_follow`: following a link at the end of a path makes no difference if there is
    none there.
  * `mem_globRoot`: the files that are found below a root, which is a file or leads to a
    directory.
-/
import ElmAssist.Disk.Glob

namespace ElmAssist

/-! ## Files below a directory -/

/-- The regular files below a directory with some entries.  `enters` tells by its name and
    path which directory may be on the way. -/
inductive FileBelow (enters : String → Path → Prop) :
    (dir : Path) → List (String × Entry) → Path → Prop
  /-- A file of the directory itself. -/
  | here {dir : Path} {entries : List (String × Entry)} {name : String} {contents : ByteArray} :
      (name, .file contents) ∈ entries → FileBelow enters dir entries (dir.join ⟨name⟩)
  /-- A file below one of its directories. -/
  | down {dir p : Path} {entries inner : List (String × Entry)} {name : String} :
      (name, .directory inner) ∈ entries → enters name (dir.join ⟨name⟩) →
      FileBelow enters (dir.join ⟨name⟩) inner p → FileBelow enters dir entries p

/-- The directories that a search enters below its root. -/
def GlobPattern.Enters (pattern : GlobPattern) (name : String) (p : Path) : Prop :=
  name ∉ pattern.excludedDirs ∧ p.size < Disk.pathLimit

namespace Disk

/-! ## Searching a directory -/

variable {pattern : GlobPattern}

/-- What is found at an entry or below it. -/
def FoundAt (pattern : GlobPattern) (p : Path) (name : String) (entry : Entry) (q : Path) : Prop :=
  match entry with
  | .file _ => q = p
  | .directory entries => pattern.Enters name p ∧ FileBelow pattern.Enters p entries q
  | .link _ => False

/-- A file is below a directory iff it is at or below one of its entries. -/
theorem fileBelow_iff {dir q : Path} {entries : List (String × Entry)} :
    FileBelow pattern.Enters dir entries q ↔
      ∃ name entry, (name, entry) ∈ entries ∧ FoundAt pattern (dir.join ⟨name⟩) name entry q := by
  constructor
  · intro h
    cases h with
    | here he => exact ⟨_, _, he, rfl⟩
    | down he hname h => exact ⟨_, _, he, hname, h⟩
  · rintro ⟨name, entry, he, h⟩
    cases entry with
    | file contents => exact h ▸ .here he
    | link goal => exact h.elim
    | directory inner => exact .down he h.1 h.2

mutual

theorem mem_globEntry {p q : Path} {name : String} (entry : Entry) :
    q ∈ globEntry pattern p name entry ↔
      FoundAt pattern p name entry q ∧ pattern.accepts q = true := by
  match entry with
  | .file _ =>
    rw [globEntry, FoundAt]
    split
    · next h => rw [List.mem_singleton]; exact ⟨fun hq => ⟨hq, hq ▸ h⟩, And.left⟩
    · next h => exact ⟨fun hq => absurd hq List.not_mem_nil, fun ⟨hq, ha⟩ => absurd (hq ▸ ha) h⟩
  | .link _ => exact ⟨fun hq => absurd hq List.not_mem_nil, fun ⟨hq, _⟩ => hq.elim⟩
  | .directory entries =>
    have henters : (pattern.excludedDirs.contains name ||
        decide (pathLimit ≤ p.size)) = true ↔ ¬ pattern.Enters name p := by
      rw [GlobPattern.Enters, Bool.or_eq_true, List.contains_iff_mem, decide_eq_true_eq,
        Classical.not_and_iff_not_or_not, Classical.not_not, Nat.not_lt]
    rw [globEntry, FoundAt]
    split
    · next h =>
      exact ⟨fun hq => absurd hq List.not_mem_nil, fun ⟨hq, _⟩ => absurd hq.1 (henters.1 h)⟩
    · next h =>
      have hname : pattern.Enters name p := Classical.not_not.1 (mt henters.2 h)
      rw [mem_globEntries entries]
      simp [hname]

/-- **The files that are found below a directory** are the matching regular files that can
    be reached through directories that are entered. -/
theorem mem_globEntries {dir p : Path} (entries : List (String × Entry)) :
    p ∈ globEntries pattern dir entries ↔
      FileBelow pattern.Enters dir entries p ∧ pattern.accepts p = true := by
  rw [fileBelow_iff]
  match entries with
  | [] =>
    exact ⟨fun hp => absurd hp List.not_mem_nil, fun ⟨⟨_, _, he, _⟩, _⟩ => absurd he List.not_mem_nil⟩
  | (name, entry) :: rest =>
    rw [globEntries, List.mem_append, mem_globEntry entry, mem_globEntries rest,
      fileBelow_iff, ← or_and_right]
    refine and_congr_left fun _ => ⟨?_, ?_⟩
    · rintro (h | ⟨n, e, he, h⟩)
      · exact ⟨name, entry, List.mem_cons_self, h⟩
      · exact ⟨n, e, List.mem_cons_of_mem _ he, h⟩
    · rintro ⟨n, e, he, h⟩
      rcases List.mem_cons.1 he with he | he
      · cases he
        exact .inl h
      · exact .inr ⟨n, e, he, h⟩

end

/-! ## Roots -/

/-- A look-up that ends at a link. -/
def Found.IsLink : Found → Prop
  | .entry _ (.link _) => True
  | _ => False

/-- Following the link at the end of some steps makes no difference if there is none. -/
theorem walkFrom_follow (d : Disk) (links : Nat) (place : List String) (steps : List Step) :
    (d.walkFrom false links place steps).IsLink ∨
      d.walkFrom false links place steps = d.walkFrom true links place steps := by
  -- A link puts the steps of its target in front, but one link less can be followed then.
  induction links using Nat.strongRecOn generalizing place steps with
  | ind links ihLinks =>
    induction steps generalizing place with
    | nil => rw [walkFrom, walkFrom]; exact .inr rfl
    | cons s rest ih =>
      rw [walkFrom, walkFrom]
      cases d.root.get? place.reverse with
      | none => exact .inr rfl
      | some here =>
        cases s with
        | stay | up =>
          dsimp only
          split
          · exact ih _
          · exact .inr rfl
        | down name =>
          cases here with
          | file a => exact .inr rfl
          | link goal => exact .inr rfl
          | directory entries =>
            dsimp only
            cases Entry.find? name entries with
            | none => exact .inr rfl
            | some entry =>
              cases entry with
              | file a => exact ih (name :: place)
              | directory inner => exact ih (name :: place)
              | link goal =>
                cases hrest : rest.isEmpty with
                | true => exact .inl trivial
                | false =>
                  cases links with
                  | zero => exact .inr rfl
                  | succ k => exact ihLinks k (Nat.lt_succ_self k) _ _

/-- **Following a link at the end of a path** makes no difference if there is none. -/
theorem lookup_follow (d : Disk) (p : Path) :
    (d.lookup false p).IsLink ∨ d.lookup false p = d.lookup true p := by
  unfold lookup
  split
  · exact .inr rfl
  split
  · exact .inr rfl
  split
  · exact walkFrom_follow d maxLinks [] p.steps
  split
  · exact .inr rfl
  · exact walkFrom_follow d maxLinks d.workingDir.reverse p.steps

/-- The entries of the directory that a path leads to. -/
def directory? (d : Disk) (p : Path) : Option (List (String × Entry)) :=
  match d.lookup true p with
  | .entry _ (.directory entries) => some entries
  | _ => none

/-- Whether a path leads to a regular file without following a link at its end. -/
def IsFile (d : Disk) (p : Path) : Prop :=
  ∃ place contents, d.lookup false p = .entry place (.file contents)

/-- A root that is no file is searched where it leads to. -/
theorem globRoot_of_not_isFile {d : Disk} {root : Path} (h : ¬ d.IsFile root) :
    d.globRoot pattern root = ((d.directory? root).map (globEntries pattern root)).getD [] := by
  have hfollow := lookup_follow d root
  unfold IsFile at h
  unfold globRoot directory?
  generalize d.lookup false root = found at h hfollow
  rcases hfollow with hlink | rfl
  · -- Of all places where a look-up can end, only a link is one.
    cases found with
    | entry place entry =>
      cases entry with
      | link goal =>
        cases d.lookup true root with
        | entry place entry => cases entry <;> rfl
        | _ => rfl
      | _ => exact hlink.elim
    | _ => exact hlink.elim
  · cases hfound : d.lookup true root with
    | entry place entry =>
      cases entry with
      | file contents => exact absurd ⟨place, contents, hfound⟩ h
      | _ => rfl
    | _ => rfl

/-- A file is no directory. -/
theorem directory?_of_isFile {d : Disk} {root : Path} (h : d.IsFile root) :
    d.directory? root = none := by
  obtain ⟨place, contents, hfound⟩ := h
  have hfollow := lookup_follow d root
  rw [hfound] at hfollow
  rw [directory?, ← hfollow.resolve_left id]

/-- A directory is searched. -/
theorem globRoot_of_directory? {d : Disk} {root : Path} {entries : List (String × Entry)}
    (h : d.directory? root = some entries) :
    d.globRoot pattern root = globEntries pattern root entries := by
  have hfile : ¬ d.IsFile root := by
    intro hfile
    rw [directory?_of_isFile hfile] at h
    cases h
  rw [globRoot_of_not_isFile hfile, h]
  rfl

/-- **The files that are found below one root**: the root itself if it is a file, and
    otherwise the files below the directory that it leads to. -/
theorem mem_globRoot {d : Disk} {root p : Path} :
    p ∈ d.globRoot pattern root ↔ pattern.accepts p = true ∧
      ((d.IsFile root ∧ p = root) ∨
        ∃ entries, d.directory? root = some entries ∧ FileBelow pattern.Enters root entries p) := by
  by_cases hfile : d.IsFile root
  · have hnone : d.directory? root = none := directory?_of_isFile hfile
    have hroot : d.globRoot pattern root = if pattern.accepts root then [root] else [] := by
      obtain ⟨place, contents, hfound⟩ := hfile
      rw [globRoot, hfound]
    rw [hroot, hnone]
    split
    · next h =>
      rw [List.mem_singleton]
      exact ⟨fun hp => ⟨hp ▸ h, .inl ⟨hfile, hp⟩⟩, fun ⟨_, hp⟩ => by simpa [hfile] using hp⟩
    · next h =>
      refine ⟨fun hp => absurd hp List.not_mem_nil, fun ⟨ha, hp⟩ => ?_⟩
      obtain rfl : p = root := by simpa [hfile] using hp
      exact absurd ha h
  · rw [globRoot_of_not_isFile hfile]
    cases d.directory? root with
    | none => simp [hfile]
    | some entries => simp [hfile, mem_globEntries, and_comm]

end Disk

end ElmAssist
