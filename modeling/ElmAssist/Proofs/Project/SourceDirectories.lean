/-
  The source directories of a project.

  * `isAbsolute_manifestDir`: projects are in absolute directories.
  * `sourceDirectories_normal`: the source directories of a project are absolute, and normal
    unless it is a package in a directory that is not.
  * `package_directory_kept`: such a package.
-/
import ElmAssist.Proofs.Path.Location
import ElmAssist.Proofs.Project.Loading

namespace ElmAssist

namespace Project

theorem isAbsolute_manifestDir {path : Path} (h : path.isAbsolute = true) :
    (manifestDir path).isAbsolute = true := by
  unfold manifestDir
  cases hparent : path.parent with
  | none => rfl
  | some dir => exact Path.isAbsolute_parent hparent h

/-- Directories that a manifest lists are absolute and normal. -/
theorem normal_of_mem_resolveDirs {base dir : Path} {dirs : List String}
    (hbase : base.isAbsolute = true) (h : dir ∈ Manifest.resolveDirs base dirs) :
    dir.isAbsolute = true ∧ dir.normalize = dir := by
  obtain ⟨text, -, rfl⟩ := List.mem_map.1 h
  exact ⟨by rw [Path.isAbsolute_normalize, Path.isAbsolute_join hbase],
    Path.normalize_normalize _⟩

/-- **Source directories** are absolute.  Those of an application are normal, of whichever kind
    its manifest is.  The one of a package is the directory `src` of its manifest's directory,
    and is normal iff that directory is. -/
theorem sourceDirectories_normal {packages : PackageCache} {path : Path} {contents : ByteArray}
    {installed : List String} {project : Project} (hpath : path.isAbsolute = true)
    (h : ofContents packages path contents installed = .ok project) :
    ∀ dir ∈ project.sourceDirectories, dir.isAbsolute = true ∧
      (project.kind = .application → dir.normalize = dir) ∧
      (project.kind = .package →
        (dir.normalize.same dir = true ↔
          (manifestDir path).normalize.same (manifestDir path) = true)) := by
  have hbase := isAbsolute_manifestDir hpath
  obtain ⟨manifest, -, hproject⟩ := ofContents_eq_ok_iff.1 h
  intro dir hdir
  cases manifest with
  | application version dirs direct =>
    obtain rfl := Option.some.inj hproject
    have hnormal := normal_of_mem_resolveDirs hbase hdir
    exact ⟨hnormal.1, fun _ => hnormal.2, fun hkind => by cases hkind⟩
  | legacy version dirs declared =>
    obtain ⟨constraint, -, rfl⟩ := Option.map_eq_some_iff.1 hproject
    have hnormal := normal_of_mem_resolveDirs hbase hdir
    exact ⟨hnormal.1, fun _ => hnormal.2, fun hkind => by cases hkind⟩
  | package constraint declared =>
    obtain rfl := Option.some.inj hproject
    obtain rfl := List.mem_singleton.1 hdir
    have hsrc : (⟨"src"⟩ : Path).components = [.name "src"] := by decide
    exact ⟨Path.isAbsolute_join hbase _, fun hkind => (by cases hkind),
      fun _ => by rw [Path.same_normalize_join hsrc]⟩

/-- An application with a directory beside its own. -/
theorem sourceDirectories_normal_sharedDirectory :
    let path : Path := ⟨"/work/./app//elm.json"⟩
    let contents := ("\x7b\"type\":\"application\",\"elm-version\":\"0.19.1\"," ++
      "\"source-directories\":[\"src\",\"./../shared//src/\",\"/lib/../more\"]," ++
      "\"dependencies\":\x7b\"direct\":\x7b\x7d,\"indirect\":\x7b\x7d\x7d\x7d").toUTF8
    ∃ project, path.isAbsolute = true ∧ ofContents {} path contents [] = .ok project ∧
      project.sourceDirectories = [⟨"/work/app/src"⟩, ⟨"/work/shared/src"⟩, ⟨"/more"⟩] ∧
      ∀ dir ∈ project.sourceDirectories, dir.normalize = dir := by
  intro path contents
  have hpath : path.isAbsolute = true := by decide
  have h : ofContents {} path contents [] = .ok
      { manifest := path, kind := .application, elmVersion := "0.19.1"
        sourceDirectories := [⟨"/work/app/src"⟩, ⟨"/work/shared/src"⟩, ⟨"/more"⟩]
        dependencies := [] } := by decide +kernel
  exact ⟨_, hpath, h, rfl, fun dir hdir => (sourceDirectories_normal hpath h dir hdir).2.1 rfl⟩

/-- A package whose manifest is named by a path that is not normal. -/
theorem package_directory_kept :
    let path : Path := ⟨"/w/../p/elm.json"⟩
    ∃ project, path.isAbsolute = true ∧
      ofContents {} path leastManifest.toUTF8 [] = .ok project ∧
      ∃ dir ∈ project.sourceDirectories, dir.normalize.same dir = false := by
  intro path
  have h : ofContents {} path leastManifest.toUTF8 [] = .ok
      { manifest := path, kind := .package, elmVersion := "0.19.1"
        sourceDirectories := [⟨"/w/../p/src"⟩], dependencies := [] } := by decide +kernel
  exact ⟨_, by decide, h, _, List.mem_singleton_self _, by decide⟩

end Project

end ElmAssist
