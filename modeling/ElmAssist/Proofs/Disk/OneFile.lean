/-
  Disks that differ in one file.

  `Entry.DifferAt place` relates two trees that are the same but for the contents of the file
  at a place.  Nothing but reading that file can tell them apart.

  * `get?_alike`, `walkFrom_alike`, `lookup_alike`: paths lead to the same places.
  * `listDirs_eq`, `glob_eq`: the same directories are listed, and the same files are found.
  * `contents_eq`: all other files hold the same.
-/
import ElmAssist.Proofs.Disk.Search
import Mathlib.Data.List.Basic

namespace ElmAssist

namespace Entry

/-- Two trees that are the same but for the contents of the file at a place.  The place is
    where look-ups find it, so that no entry in front of it has its name. -/
inductive DifferAt : (place : List String) → Entry → Entry → Prop
  | file (a b : ByteArray) : DifferAt [] (.file a) (.file b)
  | directory {name : String} {place : List String} {e e' : Entry}
      {front back : List (String × Entry)} : (∀ x ∈ front, x.1 ≠ name) → DifferAt place e e' →
      DifferAt (name :: place) (.directory (front ++ (name, e) :: back))
        (.directory (front ++ (name, e') :: back))

/-- What two trees that differ in the file at `target` have at a place: the same, or trees
    that differ there. -/
def AlikeAt (target place : List String) (e e' : Entry) : Prop :=
  e = e' ∨ ∃ rest, place ++ rest = target ∧ DifferAt rest e e'

variable {target place : List String} {e e' : Entry}

theorem DifferAt.head {name : String} {back : List (String × Entry)} (h : DifferAt place e e') :
    DifferAt (name :: place) (.directory ((name, e) :: back)) (.directory ((name, e') :: back)) :=
  .directory (fun _ hx => absurd hx List.not_mem_nil) h

theorem DifferAt.isDirectory_eq (h : DifferAt place e e') : e.isDirectory = e'.isDirectory := by
  cases h <;> rfl

theorem AlikeAt.isDirectory_eq (h : AlikeAt target place e e') : e.isDirectory = e'.isDirectory := by
  rcases h with rfl | ⟨rest, -, h⟩
  · rfl
  · exact h.isDirectory_eq

/-- A file is alike to a file, and has the same contents unless it is the one that differs. -/
theorem AlikeAt.file {a : ByteArray} (h : AlikeAt target place (.file a) e') :
    ∃ b, e' = .file b ∧ (place ≠ target → a = b) := by
  rcases h with rfl | ⟨rest, hrest, h⟩
  · exact ⟨a, rfl, fun _ => rfl⟩
  · cases h with
    | file a b => exact ⟨b, rfl, fun hne => absurd (by simpa using hrest) hne⟩

theorem AlikeAt.link {goal : Path} (h : AlikeAt target place (.link goal) e') : e' = .link goal := by
  rcases h with rfl | ⟨rest, -, h⟩
  · rfl
  · cases h

theorem AlikeAt.directory {entries : List (String × Entry)}
    (h : AlikeAt target place (.directory entries) e') : ∃ entries', e' = .directory entries' := by
  rcases h with rfl | ⟨rest, -, h⟩
  · exact ⟨entries, rfl⟩
  · cases h with
    | directory hfront h => exact ⟨_, rfl⟩

/-- Looking up a name behind entries with other names. -/
theorem find?_append_cons {name : String} {front back : List (String × Entry)} {e : Entry}
    (hfront : ∀ x ∈ front, x.1 ≠ name) (n : String) :
    find? n (front ++ (name, e) :: back) =
      if name = n then some e else find? n (front ++ back) := by
  unfold find?
  rw [List.find?_append, List.find?_append, List.find?_cons]
  by_cases h : name = n
  · have hnone : front.find? (·.1 == n) = none := by
      rw [List.find?_eq_none]
      intro x hx
      simpa [h] using hfront x hx
    simp [h, hnone]
  · rw [beq_eq_false_iff_ne.2 h, if_neg h]

/-- Entries of the same name are alike. -/
theorem AlikeAt.find? {entries entries' : List (String × Entry)} (name : String)
    (h : AlikeAt target place (.directory entries) (.directory entries')) :
    (Entry.find? name entries = none ∧ Entry.find? name entries' = none) ∨
    ∃ e e', Entry.find? name entries = some e ∧ Entry.find? name entries' = some e' ∧
      AlikeAt target (place ++ [name]) e e' := by
  rcases h with h | ⟨rest, hrest, h⟩
  · obtain rfl : entries = entries' := by simpa using h
    cases hf : Entry.find? name entries with
    | none => exact .inl ⟨rfl, rfl⟩
    | some e => exact .inr ⟨e, e, rfl, rfl, .inl rfl⟩
  · cases h with
    | @directory n rest e e' front back hfront h =>
      rw [find?_append_cons hfront, find?_append_cons hfront]
      by_cases hn : n = name
      · subst hn
        rw [if_pos rfl, if_pos rfl]
        exact .inr ⟨e, e', rfl, rfl, .inr ⟨rest, by simpa using hrest, h⟩⟩
      · rw [if_neg hn, if_neg hn]
        cases hf : Entry.find? name (front ++ back) with
        | none => exact .inl ⟨rfl, rfl⟩
        | some e => exact .inr ⟨e, e, rfl, rfl, .inl rfl⟩

/-- **The same places are taken**, by entries that are alike. -/
theorem get?_alike (h : AlikeAt target place e e') (names : List String) :
    (e.get? names = none ∧ e'.get? names = none) ∨
    ∃ f f', e.get? names = some f ∧ e'.get? names = some f' ∧
      AlikeAt target (place ++ names) f f' := by
  induction names generalizing place e e' with
  | nil => exact .inr ⟨e, e', by cases e <;> rfl, by cases e' <;> rfl, by simpa using h⟩
  | cons name names ih =>
    cases e with
    | file a =>
      obtain ⟨b, rfl, -⟩ := h.file
      exact .inl ⟨rfl, rfl⟩
    | link goal =>
      obtain rfl := h.link
      exact .inl ⟨rfl, rfl⟩
    | directory entries =>
      obtain ⟨entries', rfl⟩ := h.directory
      rcases h.find? name with ⟨hn, hn'⟩ | ⟨f, f', hf, hf', halike⟩
      · exact .inl ⟨by rw [Entry.get?, hn]; rfl, by rw [Entry.get?, hn']; rfl⟩
      · rw [Entry.get?, Entry.get?, hf, hf']
        simpa using ih halike

end Entry

namespace Disk

/-- Two disks that are the same but for the contents of the file at a place. -/
structure DifferAt (target : List String) (d d' : Disk) : Prop where
  root : Entry.DifferAt target d.root d'.root
  workingDir : d.workingDir = d'.workingDir

/-- Look-ups that end in the same way, at entries that are alike. -/
inductive Found.Alike (target : List String) : Found → Found → Prop
  | entry {place : List String} {e e' : Entry} : Entry.AlikeAt target place e e' →
      Alike target (.entry place e) (.entry place e')
  | other (found : Found) : Alike target found found

variable {target : List String} {d d' : Disk}

theorem get?_alike (h : d.DifferAt target d') (names : List String) :
    (d.root.get? names = none ∧ d'.root.get? names = none) ∨
    ∃ e e', d.root.get? names = some e ∧ d'.root.get? names = some e' ∧
      Entry.AlikeAt target names e e' := by
  have hroot : Entry.AlikeAt target [] d.root d'.root := .inr ⟨target, rfl, h.root⟩
  exact Entry.get?_alike hroot names

/-- A step down leads to the same places, if the steps behind it and those of a link do. -/
theorem walkFrom_down_alike (h : d.DifferAt target d') {follow : Bool} {links : Nat} {rest : List Step}
    (hrest : ∀ place, Found.Alike target (d.walkFrom follow links place rest)
      (d'.walkFrom follow links place rest))
    (hlinks : ∀ k < links, ∀ place steps, Found.Alike target (d.walkFrom follow k place steps)
      (d'.walkFrom follow k place steps)) (place : List String) (name : String) :
    Found.Alike target (d.walkFrom follow links place (.down name :: rest))
      (d'.walkFrom follow links place (.down name :: rest)) := by
  rw [walkFrom, walkFrom]
  rcases get?_alike h place.reverse with ⟨hn, hn'⟩ | ⟨e, e', he, he', halike⟩
  · rw [hn, hn']; exact .other _
  rw [he, he']
  cases e with
  | file a =>
    obtain ⟨b, rfl, -⟩ := halike.file
    exact .other _
  | link goal =>
    obtain rfl := halike.link
    exact .other _
  | directory entries =>
    obtain ⟨entries', rfl⟩ := halike.directory
    rcases halike.find? name with ⟨hn, hn'⟩ | ⟨f, f', hf, hf', hfound⟩
    · simp only [hn, hn']; exact .other _
    simp only [hf, hf']
    cases f with
    | file a =>
      obtain ⟨b, rfl, -⟩ := hfound.file
      exact hrest (name :: place)
    | directory entries =>
      obtain ⟨entries', rfl⟩ := hfound.directory
      exact hrest (name :: place)
    | link goal =>
      obtain rfl := hfound.link
      dsimp only
      split
      · exact .other _
      · cases links with
        | zero => exact .other _
        | succ k => exact hlinks k (Nat.lt_succ_self k) _ _

/-- **Steps lead to the same places.** -/
theorem walkFrom_alike (h : d.DifferAt target d') (follow : Bool) (links : Nat)
    (place : List String) (steps : List Step) :
    Found.Alike target (d.walkFrom follow links place steps)
      (d'.walkFrom follow links place steps) := by
  -- A link puts the steps of its target in front, but one link less can be followed then.
  induction links using Nat.strongRecOn generalizing place steps with
  | ind links ihLinks =>
    induction steps generalizing place with
    | nil =>
      rw [walkFrom, walkFrom]
      rcases get?_alike h place.reverse with ⟨hn, hn'⟩ | ⟨e, e', he, he', halike⟩
      · rw [hn, hn']; exact .other _
      · rw [he, he']; exact .entry halike
    | cons s rest ih =>
      cases s with
      | down name => exact walkFrom_down_alike h ih ihLinks place name
      | stay | up =>
        rw [walkFrom, walkFrom]
        rcases get?_alike h place.reverse with ⟨hn, hn'⟩ | ⟨e, e', he, he', halike⟩
        · rw [hn, hn']; exact .other _
        rw [he, he']
        simp only [halike.isDirectory_eq]
        split
        · exact ih _
        · exact .other _

/-- **Paths lead to the same places.** -/
theorem lookup_alike (h : d.DifferAt target d') (follow : Bool) (p : Path) :
    Found.Alike target (d.lookup follow p) (d'.lookup follow p) := by
  unfold lookup
  split
  · exact .other _
  split
  · exact .other _
  split
  · exact walkFrom_alike h follow maxLinks [] p.steps
  rw [h.workingDir]
  split
  · exact .other _
  · exact walkFrom_alike h follow maxLinks d'.workingDir.reverse p.steps

/-- Look-ups that are alike end in the same way, or at the file that differs, or at a
    directory above it. -/
theorem Found.Alike.cases {found found' : Found} (h : Found.Alike target found found') :
    found = found' ∨
    (∃ a b, found = .entry target (.file a) ∧ found' = .entry target (.file b)) ∨
    ∃ place rest entries entries', found = .entry place (.directory entries) ∧
      found' = .entry place (.directory entries') ∧
      Entry.DifferAt rest (.directory entries) (.directory entries') := by
  cases h with
  | other found => exact .inl rfl
  | @entry place e e' halike =>
    rcases halike with rfl | ⟨rest, hrest, hdiffer⟩
    · exact .inl rfl
    · cases hdiffer with
      | file a b =>
        obtain rfl : place = target := by simpa using hrest
        exact .inr (.inl ⟨a, b, rfl, rfl⟩)
      | directory hfront hdiffer => exact .inr (.inr ⟨_, _, _, _, rfl, rfl, .directory hfront hdiffer⟩)

/-! ## What can be told apart -/

/-- Whether a path leads to the file at a place. -/
def leadsTo (d : Disk) (target : List String) (p : Path) : Bool :=
  match d.lookup true p with
  | .entry place (.file _) => place == target
  | _ => false

/-- The same paths lead to the file. -/
theorem leadsTo_eq (h : d.DifferAt target d') (p : Path) : d.leadsTo target p = d'.leadsTo target p := by
  rcases (lookup_alike h true p).cases with heq | ⟨a, b, ha, hb⟩ | ⟨_, _, _, _, hd, hd', -⟩
  · rw [leadsTo, heq]; rfl
  · rw [leadsTo, leadsTo, ha, hb]
  · rw [leadsTo, leadsTo, hd, hd']

/-- **All other files hold the same.** -/
theorem contents_eq (h : d.DifferAt target d') {p : Path} (hp : d.leadsTo target p = false) :
    d.contents p = d'.contents p := by
  rcases (lookup_alike h true p).cases with heq | ⟨a, b, ha, -⟩ | ⟨_, _, _, _, hd, hd', -⟩
  · rw [contents, heq]; rfl
  · rw [leadsTo, ha] at hp
    simp at hp
  · rw [contents, contents, hd, hd']

/-- **The same directories are listed.** -/
theorem listDirs_eq (h : d.DifferAt target d') (p : Path) : d.listDirs p = d'.listDirs p := by
  rcases (lookup_alike h true p).cases with heq | ⟨a, b, ha, hb⟩ | ⟨_, _, _, _, hd, hd', hdiffer⟩
  · rw [listDirs, heq]; rfl
  · rw [listDirs, listDirs, ha, hb]
  · rw [listDirs, listDirs, hd, hd']
    cases hdiffer with
    | directory hfront hdiffer =>
      simp only [List.filter_append, List.filter_cons, hdiffer.isDirectory_eq]
      split <;> simp [List.filterMap_cons]

theorem globEntries_append (pattern : GlobPattern) (dir : Path) (front back : List (String × Entry)) :
    globEntries pattern dir (front ++ back) =
      globEntries pattern dir front ++ globEntries pattern dir back := by
  induction front with
  | nil => rfl
  | cons x front ih =>
    rw [List.cons_append, globEntries, globEntries, ih, List.append_assoc]

/-- Searching does not read files. -/
theorem globEntry_eq (pattern : GlobPattern) {place : List String} {e e' : Entry}
    (h : Entry.DifferAt place e e') (p : Path) (name : String) :
    globEntry pattern p name e = globEntry pattern p name e' := by
  induction h generalizing p name with
  | file a b => rfl
  | directory hfront hdiffer ih =>
    rw [globEntry, globEntry, globEntries_append, globEntries_append, globEntries, globEntries, ih]

/-- Searching a directory does not read files. -/
theorem globEntries_eq (pattern : GlobPattern) {place : List String}
    {entries entries' : List (String × Entry)}
    (h : Entry.DifferAt place (.directory entries) (.directory entries')) (dir : Path) :
    globEntries pattern dir entries = globEntries pattern dir entries' := by
  cases h with
  | directory hfront hdiffer =>
    rw [globEntries_append, globEntries_append, globEntries, globEntries,
      globEntry_eq pattern hdiffer]

/-- The same paths lead to files. -/
theorem isFile_iff (h : d.DifferAt target d') (p : Path) : d.IsFile p ↔ d'.IsFile p := by
  rcases (lookup_alike h false p).cases with heq | ⟨a, b, ha, hb⟩ | ⟨_, _, _, _, hd, hd', -⟩
  · rw [IsFile, heq]; rfl
  · exact ⟨fun _ => ⟨target, b, hb⟩, fun _ => ⟨target, a, ha⟩⟩
  · rw [IsFile, IsFile, hd, hd']
    constructor <;> rintro ⟨_, _, hfile⟩ <;> cases hfile

/-- The same files are found below the directory that a path leads to. -/
theorem directory?_globEntries (h : d.DifferAt target d') (pattern : GlobPattern) (p : Path) :
    (d.directory? p).map (globEntries pattern p) = (d'.directory? p).map (globEntries pattern p) := by
  rcases (lookup_alike h true p).cases with heq | ⟨a, b, ha, hb⟩ | ⟨_, _, _, _, hd, hd', hdiffer⟩
  · rw [directory?, heq]; rfl
  · rw [directory?, directory?, ha, hb]
  · rw [directory?, directory?, hd, hd']
    exact congrArg some (globEntries_eq pattern hdiffer p)

/-- **The same files are found.** -/
theorem globRoot_eq (h : d.DifferAt target d') (pattern : GlobPattern) (root : Path) :
    d.globRoot pattern root = d'.globRoot pattern root := by
  by_cases hfile : d.IsFile root
  · obtain ⟨place, contents, hfound⟩ := hfile
    obtain ⟨place', contents', hfound'⟩ := (isFile_iff h root).1 ⟨place, contents, hfound⟩
    rw [globRoot, globRoot, hfound, hfound']
  · rw [globRoot_of_not_isFile hfile, globRoot_of_not_isFile (mt (isFile_iff h root).2 hfile),
      directory?_globEntries h]

theorem glob_eq (h : d.DifferAt target d') (pattern : GlobPattern) (roots : List Path) :
    d.glob pattern roots = d'.glob pattern roots := by
  have hroot : d.globRoot pattern = d'.globRoot pattern := funext (globRoot_eq h pattern)
  rw [glob, glob, hroot]

end Disk

end ElmAssist
