/-
  Completing an import line.

  * `complete_importing`: the candidates are the modules of the project that owns the file, as
    far as they are other than the module itself and begin with what is typed.
  * `complete_importLine`: which modules these are and in which order they are listed.
  * `unlisted_nested_module`: a directory is not searched if its path is spelled too long.
-/
import ElmAssist.Proofs.Completion.Independence
import ElmAssist.Proofs.Disk.Spelling
import ElmAssist.Proofs.Project.Modules
import ElmAssist.Proofs.Text.ByteOrder

namespace ElmAssist

namespace Completion

open Elm

variable {parse : SourceParser} {disk : Disk} {w : Workspace} {text typed : String} {file : Path}
  {pos : Position} {current : Module}

theorem complete_importing (hcontext : contextAt text pos = some (.importing typed))
    (hparse : parse text = .ok current) :
    (complete parse disk w text file pos).1 =
      match (w.resolver.loaded disk).owner? file with
      | none => []
      | some project => importCandidates disk project current typed := by
  rw [complete_of_context hparse hcontext, candidatesIn_fst, candidatesOf,
    show (edited w file current).resolver.projectFor disk file =
      ((w.resolver.loaded disk).owner? file, w.resolver.loaded disk) from rfl]
  cases (w.resolver.loaded disk).owner? file <;> rfl

/-- The labels of modules are in the order of their bytes. -/
theorem pairwise_importCandidates (disk : Disk) (project : Project) (current : Module)
    (typed : String) :
    ((importCandidates disk project current typed).map (·.label)).Pairwise fun a b =>
      Text.bytes a < Text.bytes b := by
  have hlabel : (fun name => (Candidate.ofModule name name).label) = id := rfl
  rw [importCandidates, List.map_map, Function.comp_def, hlabel, List.map_id]
  exact ((pairwise_workspaceModules disk project).filter _).imp Text.bytes_lt_iff.2

/-- A module is a candidate iff a source directory has it. -/
theorem ofModule_mem_importCandidates {project : Project} {c : Candidate} :
    c ∈ importCandidates disk project current typed ↔ ∃ m, c = .ofModule m m ∧
      m ≠ current.name ∧ typed.toList <+: m.toList ∧ ∃ dir ∈ project.sourceDirectories,
        ∃ entries f, disk.directory? dir = some entries ∧
          FileBelow sourcePattern.Enters dir entries f ∧ moduleName? dir f = some m := by
  simp only [importCandidates, List.mem_map, List.mem_filter, mem_workspaceModules, Text.begins,
    Bool.and_eq_true, bne_iff_ne, List.isPrefixOf_iff_prefix]
  constructor
  · rintro ⟨m, ⟨hm, hne, hbegins⟩, rfl⟩
    exact ⟨m, rfl, hne, hbegins, hm⟩
  · rintro ⟨m, rfl, hne, hbegins, hm⟩
    exact ⟨m, ⟨hm, hne, hbegins⟩, rfl⟩

/-- **The candidates on an import line.**  If no project owns the file, there are none.
    Otherwise they are the modules other than the one that is edited which begin with what
    is typed and are found in a source directory of the project: a regular file that can be
    reached through directories, none of which holds downloaded packages or has a path that
    is too long, is named after the module.  They are listed once each, in the order of
    their bytes. -/
theorem complete_importLine (parse : SourceParser) (disk : Disk) (w : Workspace) (text : String)
    (file : Path) (pos : Position) (typed : String) (current : Module)
    (hcontext : contextAt text pos = some (.importing typed)) (hparse : parse text = .ok current) :
    let candidates := (complete parse disk w text file pos).1
    let enters := fun (name : String) (p : Path) =>
      name ∉ ["elm-stuff", "node_modules"] ∧ p.size < Disk.pathLimit
    ((∀ project ∈ (w.resolver.loaded disk).known, project.owns file = false) → candidates = []) ∧
    ∀ project, (w.resolver.loaded disk).owner? file = some project →
      (candidates.map (·.label)).Pairwise (fun a b => Text.bytes a < Text.bytes b) ∧
      ∀ c, c ∈ candidates ↔ ∃ m, c = .ofModule m m ∧ m ≠ current.name ∧ typed.toList <+: m.toList ∧
        ∃ dir ∈ project.sourceDirectories, ∃ entries f, disk.directory? dir = some entries ∧
          FileBelow enters dir entries f ∧ moduleName? dir f = some m := by
  intro candidates enters
  have hcandidates : candidates = _ := complete_importing hcontext hparse
  refine ⟨fun hnone => ?_, fun project hproject => ?_⟩
  · have howner : (w.resolver.loaded disk).owner? file = none :=
      List.find?_eq_none.2 fun p hp => by simp [hnone p hp]
    rw [hcandidates, howner]
  · rw [hcandidates, hproject]
    exact ⟨pairwise_importCandidates disk project current typed,
      fun c => ofModule_mem_importCandidates⟩

/-! ## A nested module

The project has one module, in a directory of its source directory, which may be spelled in
different ways. -/

/-- A disk with one source file, in a directory of `/p`. -/
def nestedModuleDisk : Disk :=
  { root := .directory [("p", .directory [("Nested", .directory [("A.elm", .file "".toUTF8)])])] }

/-- A workspace with one project, whose source directory is given. -/
def sourceDirWorkspace (dir : Path) : Workspace :=
  { resolver := { projects := some [⟨⟨"/p/elm.json"⟩, .package, "0.19.1", [dir], []⟩] } }

theorem directory?_nestedModuleDisk : nestedModuleDisk.directory? ⟨"/p"⟩ =
    some [("Nested", .directory [("A.elm", .file "".toUTF8)])] := by
  have hs : (⟨"/p"⟩ : Path).steps = [.down "p"] := by decide
  have ha : (⟨"/p"⟩ : Path).isAbsolute = true := by decide
  have hl : ¬ Disk.pathLimit ≤ (⟨"/p"⟩ : Path).size := by decide
  simp [Disk.directory?, Disk.lookup, hs, ha, hl, nestedModuleDisk, Disk.walkFrom, Entry.get?,
    Entry.find?]

/-- In the usual spelling of its source directory, the module is listed. -/
theorem complete_importLine_nestedModule :
    let w := sourceDirWorkspace ⟨"/p"⟩
    contextAt "import N" ⟨0, 8⟩ = some (.importing "N") ∧
      .ofModule "Nested.A" "Nested.A" ∈
        (complete (fun _ => .ok {}) nestedModuleDisk w "import N" ⟨"/p/Main.elm"⟩ ⟨0, 8⟩).1 := by
  intro w
  have hcontext : contextAt "import N" ⟨0, 8⟩ = some (.importing "N") := by decide
  have howner : (w.resolver.loaded nestedModuleDisk).owner? ⟨"/p/Main.elm"⟩ = some _ :=
    List.find?_cons_of_pos (by decide)
  obtain ⟨-, hmem⟩ := (complete_importLine (fun _ => .ok {}) nestedModuleDisk w "import N"
    ⟨"/p/Main.elm"⟩ ⟨0, 8⟩ "N" {} hcontext rfl).2 _ howner
  refine ⟨hcontext, (hmem _).2 ⟨_, rfl, by decide, by decide, ⟨"/p"⟩, List.mem_singleton_self _, _, _,
    directory?_nestedModuleDisk, .down List.mem_cons_self (by decide) (.here List.mem_cons_self), ?_⟩⟩
  decide

/-- The directory `/p`, spelled just short enough to be listed. -/
def longSourceDir : Path :=
  .behindSlashes (Disk.pathLimit - 8) "p"

theorem join_longSourceDir : longSourceDir.join ⟨"Nested"⟩ =
    .behindSlashes (Disk.pathLimit - 8) "p/Nested" :=
  Path.join_behindSlashes (c := 'p') (by decide) (by decide) (by decide)

theorem directory?_longSourceDir : nestedModuleDisk.directory? longSourceDir =
    some [("Nested", .directory [("A.elm", .file "".toUTF8)])] := by
  have hsame : longSourceDir.same ⟨"/p"⟩ = true := by
    rw [Path.same_iff, longSourceDir, Path.components_behindSlashes]
    decide
  have hends : longSourceDir.EndsInName :=
    ⟨'p', by rw [longSourceDir, Path.behindSlashes, String.toList_append, List.getLast?_append]; rfl,
      by decide, by decide⟩
  have hshort : Disk.pathLimit ≤ longSourceDir.size ↔
      Disk.pathLimit ≤ (⟨"/p"⟩ : Path).size := by
    rw [longSourceDir, Path.size_behindSlashes]
    decide
  rw [← directory?_nestedModuleDisk, Disk.directory?, Disk.directory?,
    Disk.lookup_congr hsame hends ⟨'p', by decide, by decide, by decide⟩ hshort]

/-- If the source directory is spelled so long that the directory in it cannot be listed, the
    module is not, though only directories that may be searched lead to its file. -/
theorem unlisted_nested_module :
    let w := sourceDirWorkspace longSourceDir
    let f := (longSourceDir.join ⟨"Nested"⟩).join ⟨"A.elm"⟩
    let candidates :=
      (complete (fun _ => .ok {}) nestedModuleDisk w "import N" ⟨"/p/Main.elm"⟩ ⟨0, 8⟩).1
    contextAt "import N" ⟨0, 8⟩ = some (.importing "N") ∧
    (∃ project, (w.resolver.loaded nestedModuleDisk).owner? ⟨"/p/Main.elm"⟩ = some project ∧
      longSourceDir ∈ project.sourceDirectories) ∧
    (∃ entries, nestedModuleDisk.directory? longSourceDir = some entries ∧
      FileBelow (fun name _ => name ∉ ["elm-stuff", "node_modules"]) longSourceDir entries f) ∧
    moduleName? longSourceDir f = some "Nested.A" ∧ "Nested.A" ≠ ({} : Module).name ∧
    candidates = [] := by
  intro w f candidates
  have hcontext : contextAt "import N" ⟨0, 8⟩ = some (.importing "N") := by decide
  have howns : (⟨"/p/Main.elm"⟩ : Path).startsWith longSourceDir = true := by
    rw [Path.startsWith, longSourceDir, Path.components_behindSlashes]
    decide
  have howner : (w.resolver.loaded nestedModuleDisk).owner? ⟨"/p/Main.elm"⟩ = some _ :=
    List.find?_cons_of_pos (by rw [Project.owns, List.any_cons, howns]; rfl)
  have hname : moduleName? longSourceDir f = some "Nested.A" := by
    have hf : f = .behindSlashes (Disk.pathLimit - 8) "p/Nested/A.elm" := by
      show (longSourceDir.join ⟨"Nested"⟩).join ⟨"A.elm"⟩ = _
      rw [join_longSourceDir]
      exact Path.join_behindSlashes (c := 'd') (by decide) (by decide) (by decide)
    rw [moduleName?, Path.below?, hf, longSourceDir, Path.components_behindSlashes,
      Path.components_behindSlashes]
    decide
  refine ⟨hcontext, ⟨_, howner, List.mem_singleton_self _⟩, ⟨_, directory?_longSourceDir,
    .down List.mem_cons_self (by decide) (.here List.mem_cons_self)⟩, hname, by decide, ?_⟩
  -- Whatever else is below the source directory would have to be in the nested directory.
  have hcandidates : candidates = _ := complete_importing hcontext rfl
  rw [hcandidates, howner, List.eq_nil_iff_forall_not_mem]
  intro c hc
  obtain ⟨m, -, -, -, dir, hdir, entries, file, hentries, hbelow, -⟩ :=
    ofModule_mem_importCandidates.1 hc
  obtain rfl := List.mem_singleton.1 hdir
  obtain rfl := Option.some.inj (directory?_longSourceDir.symm.trans hentries)
  obtain ⟨name, entry, he, hfound⟩ := Disk.fileBelow_iff.1 hbelow
  obtain ⟨rfl, rfl⟩ : name = "Nested" ∧ entry = _ := by simpa using he
  have henters := hfound.1.2
  rw [join_longSourceDir, Path.size_behindSlashes] at henters
  exact absurd henters (by decide)

end Completion

end ElmAssist
