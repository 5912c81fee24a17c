/-
  What a search lists, and in which order.

  The files that a search of a directory finds are given by the chains of names that lead to
  them in the tree.  They are listed in the order of these chains, names being compared byte by
  byte, as the entries of every directory are (`Entry.Ordered`).

  * `fileBelow_iff_chain`: the files below a directory, by chains of names.
  * `pairwise_globEntries`: the order of the files below a directory.
  * `glob_exact`: what is listed for each root and for several ones.
  * `unlisted_nested_file`: a directory is not searched if its path is spelled too long.
-/
import ElmAssist.Path.Bytes
import ElmAssist.Proofs.Disk.OneFile
import ElmAssist.Proofs.Path.Components

namespace ElmAssist

/-! ## Chains of names -/

namespace Path

variable {name : String} {names : List String}

/-- The path of a chain of names below a directory. -/
def descend (dir : Path) (names : List String) : Path :=
  names.foldl (fun p name => p.join ⟨name⟩) dir

theorem components_of_isPiece (h : (Component.name name).IsPiece) :
    (⟨name⟩ : Path).components = [.name name] := by
  have hpath : ofComponents [.name name] = ⟨name⟩ := rfl
  rw [← hpath]
  exact components_ofComponents (by simpa using h)

theorem isAbsolute_of_isPiece (h : (Component.name name).IsPiece) :
    (⟨name⟩ : Path).isAbsolute = false := by
  rw [isAbsolute_eq, components_of_isPiece h]
  rfl

theorem components_join_name (h : (Component.name name).IsPiece) (p : Path) :
    (p.join ⟨name⟩).components = p.components ++ [.name name] := by
  have hhere : (⟨name⟩ : Path).components.head? ≠ some .here := by
    rw [components_of_isPiece h]
    simp
  rw [components_join (isAbsolute_of_isPiece h) hhere, components_of_isPiece h]

theorem components_descend (h : ∀ name ∈ names, (Component.name name).IsPiece) (p : Path) :
    (p.descend names).components = p.components ++ names.map .name := by
  induction names generalizing p with
  | nil => simp [descend]
  | cons name names ih =>
    rw [List.forall_mem_cons] at h
    have hrest := ih h.2 (p.join ⟨name⟩)
    rw [components_join_name h.1, List.append_assoc] at hrest
    exact hrest

theorem size_le_join {q : Path} (h : q.isAbsolute = false) (p : Path) :
    p.size ≤ (p.join q).size := by
  unfold join
  rw [h, if_neg Bool.false_ne_true]
  split <;> simp only [size, bytes, bytesOf_append, List.length_append] <;> omega

theorem size_le_descend (h : ∀ name ∈ names, (Component.name name).IsPiece) (p : Path) :
    p.size ≤ (p.descend names).size := by
  induction names generalizing p with
  | nil => exact Nat.le_refl _
  | cons name names ih =>
    rw [List.forall_mem_cons] at h
    exact Nat.le_trans (size_le_join (isAbsolute_of_isPiece h.1) p) (ih h.2 _)

/-- The bytes of the components of a path, by which paths are compared. -/
def keys (p : Path) : List (List UInt8) :=
  p.components.map fun c => bytes ⟨c.text⟩

end Path

/-! ## Ordered trees -/

namespace Entry

/-- A tree as a file system has it: names can stand between slashes, and the entries of a
    directory have different names and are in the order of their bytes. -/
inductive Ordered : Entry → Prop
  | file (contents : ByteArray) : Ordered (.file contents)
  | link (target : Path) : Ordered (.link target)
  | directory {entries : List (String × Entry)} :
      (∀ x ∈ entries, (Path.Component.name x.1).IsPiece) →
      entries.Pairwise (fun x y => Path.bytes ⟨x.1⟩ < Path.bytes ⟨y.1⟩) →
      (∀ x ∈ entries, Ordered x.2) → Ordered (.directory entries)

variable {e f : Entry} {name : String} {names : List String} {entries : List (String × Entry)}

theorem Ordered.find?_eq_some_iff (h : Entry.Ordered (.directory entries)) :
    Entry.find? name entries = some e ↔ (name, e) ∈ entries := by
  constructor
  · intro hfind
    obtain ⟨x, hx, rfl⟩ := Option.map_eq_some_iff.1 hfind
    obtain rfl : x.1 = name := by simpa using List.find?_some hx
    exact List.mem_of_find?_eq_some hx
  · intro hmem
    obtain ⟨front, back, rfl⟩ := List.mem_iff_append.1 hmem
    have hfront : ∀ x ∈ front, x.1 ≠ name := by
      rintro x hx rfl
      cases h with
      | directory _ hsorted _ =>
        exact List.lt_irrefl _ ((List.pairwise_append.1 hsorted).2.2 x hx (x.1, e) List.mem_cons_self)
    rw [find?_append_cons hfront, if_pos rfl]

theorem Ordered.get?_cons (h : Entry.Ordered (.directory entries)) :
    (Entry.directory entries).get? (name :: names) = some f ↔
      ∃ e, (name, e) ∈ entries ∧ e.get? names = some f := by
  rw [Entry.get?, Option.bind_eq_some_iff]
  simp only [h.find?_eq_some_iff]

/-- The parts of an ordered tree are ordered, and the names that lead to them can stand
    between slashes. -/
theorem Ordered.of_get? (h : e.Ordered) (hget : e.get? names = some f) :
    f.Ordered ∧ ∀ name ∈ names, (Path.Component.name name).IsPiece := by
  induction names generalizing e with
  | nil =>
    obtain rfl : e = f := by cases e <;> exact Option.some.inj hget
    exact ⟨h, fun name hname => absurd hname List.not_mem_nil⟩
  | cons name names ih =>
    cases h with
    | file contents => cases hget
    | link target => cases hget
    | directory hnames hsorted hinner =>
      obtain ⟨e, he, hrest⟩ := (Ordered.directory hnames hsorted hinner).get?_cons.1 hget
      obtain ⟨hf, hall⟩ := ih (hinner _ he) hrest
      exact ⟨hf, List.forall_mem_cons.2 ⟨hnames _ he, hall⟩⟩

end Entry

namespace Disk

/-- Steps that end at an entry have led to it in the tree. -/
theorem walkFrom_entry {d : Disk} {links : Nat} {place found : List String} {steps : List Step}
    {e : Entry} (h : d.walkFrom true links place steps = .entry found e) :
    d.root.get? found = some e := by
  -- A link puts the steps of its target in front, but one link less can be followed then.
  induction links using Nat.strongRecOn generalizing place steps with
  | ind links ihLinks =>
    induction steps generalizing place with
    | nil =>
      rw [walkFrom] at h
      cases hhere : d.root.get? place.reverse with
      | none => rw [hhere] at h; cases h
      | some here =>
        rw [hhere] at h
        obtain ⟨rfl, rfl⟩ := Found.entry.inj h
        exact hhere
    | cons s rest ih =>
      rw [walkFrom] at h
      cases hhere : d.root.get? place.reverse with
      | none => rw [hhere] at h; cases h
      | some here =>
        rw [hhere] at h
        cases s with
        | stay | up =>
          dsimp only at h
          split at h
          · exact ih h
          · cases h
        | down name =>
          cases here with
          | file contents => cases h
          | link target => cases h
          | directory entries =>
            dsimp only at h
            cases hfind : Entry.find? name entries with
            | none =>
              rw [hfind] at h
              dsimp only at h
              split at h
              · cases h
              · split at h <;> cases h
            | some entry =>
              rw [hfind] at h
              cases entry with
              | file contents => exact ih h
              | directory inner => exact ih h
              | link target =>
                rw [Bool.not_true, Bool.and_false] at h
                cases links with
                | zero => cases h
                | succ k => exact ihLinks k (Nat.lt_succ_self k) h

variable {d : Disk} {root : Path} {entries : List (String × Entry)}

/-- A path that leads to a directory is short enough, and the directory is ordered. -/
theorem of_directory? (hd : d.root.Ordered) (h : d.directory? root = some entries) :
    root.size < pathLimit ∧ (Entry.directory entries).Ordered := by
  have hfound : ∃ place, d.lookup true root = .entry place (.directory entries) := by
    unfold directory? at h
    split at h
    · next place inner hlookup => exact ⟨place, by rw [hlookup, Option.some.inj h]⟩
    · cases h
  obtain ⟨place, hplace⟩ := hfound
  unfold lookup at hplace
  split at hplace
  · cases hplace
  split at hplace
  · cases hplace
  next hshort =>
  refine ⟨Nat.not_le.1 hshort, ?_⟩
  split at hplace
  · exact (hd.of_get? (walkFrom_entry hplace)).1
  split at hplace
  · cases hplace
  · exact (hd.of_get? (walkFrom_entry hplace)).1

/-! ## Which files are listed -/

variable {pattern : GlobPattern} {dir p q : Path}

/-- **The files below a directory** that a search comes to, by the chains of names that lead
    to them. -/
theorem fileBelow_iff_chain (h : (Entry.directory entries).Ordered)
    (hshort : dir.size < pathLimit) :
    FileBelow pattern.Enters dir entries p ↔ ∃ dirs name contents,
      (Entry.directory entries).get? (dirs ++ [name]) = some (.file contents) ∧
        p = dir.descend (dirs ++ [name]) ∧ (∀ dir ∈ dirs, dir ∉ pattern.excludedDirs) ∧
        (dir.descend dirs).size < pathLimit := by
  constructor
  · intro hp
    induction hp with
    | @here dir entries name contents he =>
      exact ⟨[], name, contents, h.get?_cons.2 ⟨_, he, rfl⟩, rfl,
        fun dir hdir => absurd hdir List.not_mem_nil, hshort⟩
    | @down dir p entries inner name he henters _ ih =>
      cases h with
      | directory hnames hsorted hinner =>
        obtain ⟨dirs, last, contents, hget, hp, hdirs, hlength⟩ := ih (hinner _ he) henters.2
        exact ⟨name :: dirs, last, contents,
          (Entry.Ordered.directory hnames hsorted hinner).get?_cons.2 ⟨_, he, hget⟩, hp,
          List.forall_mem_cons.2 ⟨henters.1, hdirs⟩, hlength⟩
  · rintro ⟨dirs, name, contents, hget, rfl, hdirs, hlength⟩
    induction dirs generalizing dir entries with
    | nil =>
      obtain ⟨e, he, hfile⟩ := h.get?_cons.1 hget
      obtain rfl : e = .file contents := by cases e <;> exact Option.some.inj hfile
      exact .here he
    | cons first dirs ih =>
      obtain ⟨-, hpieces⟩ := h.of_get? hget
      rw [List.forall_mem_cons] at hdirs
      have hfirst : (dir.join ⟨first⟩).size < pathLimit :=
        Nat.lt_of_le_of_lt (Path.size_le_descend (fun name hname => hpieces name
          (List.mem_cons_of_mem _ (List.mem_append_left _ hname))) _) hlength
      obtain ⟨e, he, hrest⟩ := h.get?_cons.1 hget
      cases e with
      | file a => cases dirs <;> cases hrest
      | link target => cases dirs <;> cases hrest
      | directory inner =>
        cases h with
        | directory hnames hsorted hinner =>
          exact .down he ⟨hdirs.1, hfirst⟩ (ih (hinner _ he) hfirst hrest hdirs.2 hlength)

end Disk

/-- A name that is looked for: it is listed, or it ends in a dot and the extension, behind a
    stem. -/
def GlobPattern.Wants (pattern : GlobPattern) (name : String) : Prop :=
  name ∈ pattern.fileNames ∨ ∃ stem ext, pattern.extension = some ext ∧ stem ≠ "" ∧
    '.' ∉ ext.toList ∧ name = stem ++ "." ++ ext

theorem GlobPattern.accepts_iff {pattern : GlobPattern} {p : Path} {name : String}
    (h : p.fileName = some name) : pattern.accepts p = true ↔ pattern.Wants name := by
  have hextension : (pattern.extension.isSome && p.extension == pattern.extension) = true ↔
      ∃ stem ext, pattern.extension = some ext ∧ Path.splitExtension name = (stem, some ext) := by
    rw [Path.extension, h, Option.bind_some]
    cases pattern.extension with
    | none => simp
    | some ext =>
      generalize Path.splitExtension name = parts
      obtain ⟨stem, found⟩ := parts
      simp
  rw [accepts, Bool.or_eq_true, hextension, h, Wants]
  simp [Path.splitExtension_eq_some_iff]

namespace Disk

variable {d : Disk} {root dir p q : Path} {entries : List (String × Entry)} {pattern : GlobPattern}

theorem fileName_descend {names : List String} {name : String}
    (h : ∀ n ∈ names ++ [name], (Path.Component.name n).IsPiece) (dir : Path) :
    (dir.descend (names ++ [name])).fileName = some name := by
  rw [Path.fileName, Path.components_descend h, List.map_append, ← List.append_assoc,
    List.getLast?_append]
  rfl

/-! ## The order of the list -/

theorem globEntries_eq_flatMap (pattern : GlobPattern) (dir : Path)
    (entries : List (String × Entry)) : globEntries pattern dir entries =
      entries.flatMap fun x => globEntry pattern (dir.join ⟨x.1⟩) x.1 x.2 := by
  induction entries with
  | nil => rfl
  | cons x entries ih => rw [globEntries, ih, List.flatMap_cons]

/-- The files below a directory are compared by what follows it. -/
theorem exists_keys_append {enters : String → Path → Prop} (hq : FileBelow enters dir entries q)
    (h : (Entry.directory entries).Ordered) : ∃ rest, q.keys = dir.keys ++ rest := by
  induction hq with
  | here he =>
    cases h with
    | directory hnames _ _ =>
      rw [Path.keys, Path.components_join_name (hnames _ he), List.map_append]
      exact ⟨_, rfl⟩
  | @down dir q entries inner name he _ _ ih =>
    cases h with
    | directory hnames _ hinner =>
      obtain ⟨rest, hrest⟩ := ih (hinner _ he)
      rw [Path.keys, Path.keys, Path.components_join_name (hnames _ he), List.map_append,
        List.append_assoc] at hrest
      exact ⟨_, hrest⟩

theorem keys_of_mem_globEntry {x : String × Entry} (hname : (Path.Component.name x.1).IsPiece)
    (h : x.2.Ordered) (hq : q ∈ globEntry pattern (dir.join ⟨x.1⟩) x.1 x.2) :
    ∃ rest, q.keys = dir.keys ++ Path.bytes ⟨x.1⟩ :: rest := by
  have hjoin : (dir.join ⟨x.1⟩).keys = dir.keys ++ [Path.bytes ⟨x.1⟩] := by
    rw [Path.keys, Path.components_join_name hname, List.map_append]
    rfl
  have hkeys : ∃ rest, q.keys = (dir.join ⟨x.1⟩).keys ++ rest := by
    have hfound := ((mem_globEntry x.2).1 hq).1
    cases hentry : x.2 with
    | file contents =>
      rw [hentry] at hfound
      exact ⟨[], by rw [hfound, List.append_nil]⟩
    | link target => rw [hentry] at hfound; exact hfound.elim
    | directory inner =>
      rw [hentry] at hfound h
      exact exists_keys_append hfound.2 h
  obtain ⟨rest, hrest⟩ := hkeys
  exact ⟨rest, by rw [hrest, hjoin, List.append_assoc]; rfl⟩

/-- Files of which the entries are in order are so themselves. -/
theorem pairwise_globEntries_of (h : (Entry.directory entries).Ordered)
    (hinner : ∀ x ∈ entries, ∀ p name,
      (globEntry pattern p name x.2).Pairwise fun p q => p.keys < q.keys) (dir : Path) :
    (globEntries pattern dir entries).Pairwise fun p q => p.keys < q.keys := by
  rw [globEntries_eq_flatMap, List.pairwise_flatMap]
  refine ⟨fun x hx => hinner x hx _ _, ?_⟩
  cases h with
  | directory hnames hsorted hordered =>
    refine hsorted.imp_of_mem fun {x y} hx hy hlt p hp q hq => ?_
    obtain ⟨rest, hrest⟩ := keys_of_mem_globEntry (hnames x hx) (hordered x hx) hp
    obtain ⟨rest', hrest'⟩ := keys_of_mem_globEntry (hnames y hy) (hordered y hy) hq
    rw [hrest, hrest']
    exact List.append_left_lt (List.cons_lt_cons_iff.2 (.inl hlt))

theorem pairwise_globEntry {e : Entry} (h : e.Ordered) (p : Path) (name : String) :
    (globEntry pattern p name e).Pairwise fun p q => p.keys < q.keys := by
  induction h generalizing p name with
  | file contents =>
    rw [globEntry]
    split
    · exact List.pairwise_singleton _ _
    · exact .nil
  | link target => exact .nil
  | directory hnames hsorted hinner ih =>
    rw [globEntry]
    split
    · exact .nil
    · exact pairwise_globEntries_of (.directory hnames hsorted hinner) ih p

theorem pairwise_globEntries (h : (Entry.directory entries).Ordered) (dir : Path) :
    (globEntries pattern dir entries).Pairwise fun p q => p.keys < q.keys := by
  refine pairwise_globEntries_of h (fun x hx p name => ?_) dir
  cases h with
  | directory hnames hsorted hinner => exact pairwise_globEntry (hinner x hx) p name

theorem glob_singleton (d : Disk) (pattern : GlobPattern) (root : Path) :
    d.glob pattern [root] = d.globRoot pattern root :=
  List.flatMap_singleton _ root

/-- **What a search lists.**  For a root that leads to a directory these are the regular files
    below it with a name that is looked for, reached through directories none of which has an
    excluded name, if the path of the directory that holds the file is short enough to be
    listed; and they are in strictly increasing order, component by component and byte by byte.
    For several roots, the lists of the roots follow one another. -/
theorem glob_exact (d : Disk) (hd : d.root.Ordered) (pattern : GlobPattern) :
    (∀ root entries, d.directory? root = some entries →
      (∀ p, p ∈ d.glob pattern [root] ↔ ∃ dirs name contents,
        (Entry.directory entries).get? (dirs ++ [name]) = some (.file contents) ∧
          p = root.descend (dirs ++ [name]) ∧ (∀ dir ∈ dirs, dir ∉ pattern.excludedDirs) ∧
          (root.descend dirs).size < pathLimit ∧ pattern.Wants name) ∧
      (d.glob pattern [root]).Pairwise fun p q => p.keys < q.keys) ∧
    ∀ roots, d.glob pattern roots = (roots.map fun root => d.glob pattern [root]).flatten := by
  refine ⟨fun root entries hroot => ?_, fun roots => ?_⟩
  · obtain ⟨hshort, hordered⟩ := of_directory? hd hroot
    rw [glob_singleton, globRoot_of_directory? hroot]
    refine ⟨fun p => ?_, pairwise_globEntries hordered root⟩
    rw [mem_globEntries, fileBelow_iff_chain hordered hshort]
    constructor
    · rintro ⟨⟨dirs, name, contents, hget, rfl, hdirs, hlength⟩, haccepts⟩
      have hname := fileName_descend (hordered.of_get? hget).2 root
      exact ⟨dirs, name, contents, hget, rfl, hdirs, hlength,
        (GlobPattern.accepts_iff hname).1 haccepts⟩
    · rintro ⟨dirs, name, contents, hget, rfl, hdirs, hlength, hwants⟩
      have hname := fileName_descend (hordered.of_get? hget).2 root
      exact ⟨⟨dirs, name, contents, hget, rfl, hdirs, hlength⟩,
        (GlobPattern.accepts_iff hname).2 hwants⟩
  · rw [glob, List.flatMap_def]
    simp only [glob_singleton]

/-- A directory with source files at two depths, an excluded directory and a link. -/
def sourceTree : List (String × Entry) :=
  [("a", .directory [("z.elm", .file "".toUTF8)]), ("a.elm", .file "".toUTF8),
    ("elm-stuff", .directory [("b.elm", .file "".toUTF8)]), ("l.elm", .link ⟨"a.elm"⟩)]

/-- The file in the nested directory is listed, and comes first. -/
theorem glob_exact_sourceTree :
    let d : Disk := { root := .directory [("p", .directory sourceTree)] }
    let pattern : GlobPattern := { extension := some "elm", excludedDirs := ["elm-stuff"] }
    d.root.Ordered ∧ d.directory? ⟨"/p"⟩ = some sourceTree ∧
      ⟨"/p/a/z.elm"⟩ ∈ d.glob pattern [⟨"/p"⟩] ∧
      (d.glob pattern [⟨"/p"⟩]).Pairwise (fun p q => p.keys < q.keys) ∧
      (⟨"/p/a/z.elm"⟩ : Path).keys < (⟨"/p/a.elm"⟩ : Path).keys := by
  intro d pattern
  have hordered : d.root.Ordered := by
    have hfile : ∀ name : String, ∀ x ∈ [(name, Entry.file "".toUTF8)], x.2.Ordered :=
      fun name x hx => List.mem_singleton.1 hx ▸ .file _
    refine .directory (by decide) (by decide) ?_
    rw [List.forall_mem_singleton]
    refine .directory (by decide) (by decide) ?_
    simp only [sourceTree, List.forall_mem_cons]
    exact ⟨.directory (by decide) (by decide) (hfile _), .file _,
      .directory (by decide) (by decide) (hfile _), .link _,
      fun x hx => absurd hx List.not_mem_nil⟩
  have hroot : d.directory? ⟨"/p"⟩ = some sourceTree := by
    have hsteps : (⟨"/p"⟩ : Path).steps = [.down "p"] := by decide
    have habsolute : (⟨"/p"⟩ : Path).isAbsolute = true := by decide
    have hshort : ¬ pathLimit ≤ (⟨"/p"⟩ : Path).size := by decide
    simp [directory?, lookup, hsteps, habsolute, hshort, d, walkFrom, Entry.get?, Entry.find?]
  obtain ⟨hmem, hpairwise⟩ := (glob_exact d hordered pattern).1 _ _ hroot
  refine ⟨hordered, hroot, (hmem _).2 ⟨["a"], "z.elm", "".toUTF8, rfl, by decide, by decide,
    by decide, .inr ⟨"z", "elm", rfl, by decide, by decide, by decide⟩⟩, hpairwise, by decide⟩

/-! ## A root of many slashes -/

/-- Slashes alone lead to the root, if they are not too many. -/
theorem directory?_slashes {n : Nat} (hn : n + 1 < pathLimit)
    (hroot : d.root = .directory entries) : d.directory? (.behindSlashes n "") = some entries := by
  have htext : (Path.behindSlashes n "").text.toList = List.replicate (n + 1) '/' := by
    simp [Path.behindSlashes]
  have hsteps : (Path.behindSlashes n "").steps = [.stay] := by
    have hpieces : (Path.behindSlashes n "").pieces = List.replicate (n + 1) [] ++ [[]] := by
      rw [Path.pieces, htext, ← List.append_nil (List.replicate _ _), Path.splitList_slashes]
      rfl
    rw [Path.steps, hpieces, htext, List.filterMap_append, List.filterMap_replicate_of_none rfl,
      List.getLast?_replicate]
    rfl
  have habsolute : (Path.behindSlashes n "").isAbsolute = true := by
    rw [Path.isAbsolute, htext]
    rfl
  have hnul : (Path.behindSlashes n "").text.toList.any (·.toNat == 0) = false := by
    rw [htext, List.any_replicate]
    simp
  have hlong : ¬ pathLimit ≤ (Path.behindSlashes n "").size := by
    rw [Path.size_behindSlashes]
    exact Nat.not_le.2 hn
  have hget : d.root.get? [] = some (.directory entries) := by rw [hroot]; rfl
  have hlookup : d.lookup true (.behindSlashes n "") = .entry [] (.directory entries) := by
    rw [lookup, hnul, if_neg Bool.false_ne_true, if_neg hlong, habsolute, if_pos rfl, hsteps,
      walkFrom, List.reverse_nil, hget]
    have hdirectory : (Entry.directory entries).isDirectory = true := rfl
    dsimp only
    rw [if_pos hdirectory, walkFrom, List.reverse_nil, hget]
  rw [directory?, hlookup]

/-- So many slashes that no directory at the root is listed behind them. -/
def longRoot : Path :=
  .behindSlashes (pathLimit - 8) ""

/-- A file in a directory of such a root is not listed, though its name is looked for and no
    directory is excluded. -/
theorem unlisted_nested_file :
    let nested : List (String × Entry) :=
      [("project", .directory [("A.elm", .file "".toUTF8)])]
    let d : Disk := { root := .directory nested }
    let pattern : GlobPattern := { extension := some "elm" }
    d.root.Ordered ∧ d.directory? longRoot = some nested ∧
      (Entry.directory nested).get? ["project", "A.elm"] = some (.file "".toUTF8) ∧
      pattern.Wants "A.elm" ∧ pattern.excludedDirs = [] ∧
      longRoot.descend ["project", "A.elm"] ∉ d.glob pattern [longRoot] := by
  intro nested d pattern
  have hordered : d.root.Ordered := by
    refine .directory (by decide) (by decide) ?_
    rw [List.forall_mem_singleton]
    refine .directory (by decide) (by decide) ?_
    rw [List.forall_mem_singleton]
    exact .file _
  have hroot : d.directory? longRoot = some nested := directory?_slashes (by decide) rfl
  refine ⟨hordered, hroot, rfl, .inr ⟨"A", "elm", rfl, by decide, by decide, by decide⟩, rfl, ?_⟩
  rw [glob_singleton, globRoot_of_directory? hroot, mem_globEntries]
  rintro ⟨hbelow, -⟩
  obtain ⟨name, entry, he, hfound⟩ := fileBelow_iff.1 hbelow
  obtain ⟨rfl, rfl⟩ : name = "project" ∧ entry = _ := by simpa using List.mem_singleton.1 he
  have hlong := hfound.1.2
  rw [longRoot, Path.join_slashes _ rfl, Path.size_behindSlashes] at hlong
  exact absurd hlong (by decide)

end Disk

end ElmAssist
