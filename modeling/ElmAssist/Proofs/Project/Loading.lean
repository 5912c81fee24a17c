/-
  Loading the projects of a workspace.

  * `load_manifest`: a project is loaded from the manifest that it names.
  * `load_eq`: what is loaded from a manifest depends on the contents of no other file.
  * `loadAll_isolated`: a manifest that does not load is skipped, and what it holds makes no
    difference to the projects of the other manifests.
-/
import ElmAssist.Proofs.Disk.OneFile
import ElmAssist.Resolver

namespace ElmAssist

namespace Project

variable {packages : PackageCache} {disk d d' : Disk} {target : List String}

/-! ## One manifest -/

/-- A project is what the manifest describes that its contents are read as. -/
theorem ofContents_eq_ok_iff {path : Path} {contents : ByteArray} {installed : List String}
    {project : Project} : ofContents packages path contents installed = .ok project ↔
      ∃ manifest, Manifest.read? path contents = some manifest ∧
        manifest.project? path packages installed = some project := by
  unfold ofContents
  cases Manifest.read? path contents with
  | none => simp
  | some manifest => cases hproject : manifest.project? path packages installed <;> simp [hproject]

theorem ofContents_manifest {path : Path} {contents : ByteArray} {installed : List String}
    {project : Project} (h : ofContents packages path contents installed = .ok project) :
    project.manifest = path := by
  obtain ⟨manifest, -, hproject⟩ := ofContents_eq_ok_iff.1 h
  cases manifest with
  | application version dirs direct =>
    obtain rfl := Option.some.inj hproject
    rfl
  | package constraint declared =>
    obtain rfl := Option.some.inj hproject
    rfl
  | legacy version dirs declared =>
    obtain ⟨constraint, -, rfl⟩ := Option.map_eq_some_iff.1 hproject
    rfl

/-- **A project names the manifest** that it is loaded from. -/
theorem load_manifest {path : Path} {project : Project} (h : load packages disk path = .ok project) :
    project.manifest = path := by
  unfold load at h
  split at h
  · cases h
  · exact ofContents_manifest h

theorem installedCompilers_eq (h : d.DifferAt target d') :
    d.installedCompilers packages = d'.installedCompilers packages := by
  unfold Disk.installedCompilers
  cases packages.root? with
  | none => rfl
  | some root => exact Disk.listDirs_eq h root

/-- **What is loaded from a manifest** depends on the contents of no other file. -/
theorem load_eq (h : d.DifferAt target d') {path : Path} (hpath : d.leadsTo target path = false) :
    load packages d path = load packages d' path := by
  rw [load, load, Disk.contents_eq h hpath, installedCompilers_eq h]

/-! ## All manifests -/

/-- There is one project for each manifest that loads, in the order of the search. -/
theorem loadAll_manifests (roots : List Path) :
    (loadAll packages disk roots).map (·.manifest) =
      (disk.glob manifestPattern roots).filter fun path => (load packages disk path).isOk := by
  rw [loadAll, List.map_filterMap, ← List.filterMap_eq_filter]
  congr 1
  funext path
  cases h : load packages disk path with
  | error e =>
    have hbad : (load packages disk path).isOk = false := by rw [h]; rfl
    simp [Except.toOption, Option.guard, hbad]
  | ok project =>
    have hok : (load packages disk path).isOk = true := by rw [h]; rfl
    simp [Except.toOption, Option.guard, hok, load_manifest h]

/-- A project is what its manifest describes. -/
theorem load_of_mem_loadAll {roots : List Path} {project : Project}
    (h : project ∈ loadAll packages disk roots) :
    load packages disk project.manifest = .ok project := by
  obtain ⟨path, -, hpath⟩ := List.mem_filterMap.1 h
  cases hload : load packages disk path with
  | error e => rw [hload] at hpath; cases hpath
  | ok p =>
    obtain rfl : p = project := by simpa [hload, Except.toOption] using hpath
    rw [load_manifest hload, hload]

/-- The projects of other manifests than the one that differs. -/
theorem loadAll_others (h : d.DifferAt target d') (roots : List Path) :
    (loadAll packages d roots).filter (fun p => !d.leadsTo target p.manifest) =
      (loadAll packages d' roots).filter fun p => !d'.leadsTo target p.manifest := by
  rw [loadAll, loadAll, List.filter_filterMap, List.filter_filterMap, Disk.glob_eq h]
  -- A project of the file that differs is left out of both lists, whatever it is.
  have hnone : ∀ (disk : Disk) (path : Path), disk.leadsTo target path = true →
      (load packages disk path).toOption.filter (fun p => !disk.leadsTo target p.manifest) = none := by
    intro disk path hpath
    cases hload : load packages disk path with
    | error e => rfl
    | ok project => simp [Except.toOption, Option.filter, load_manifest hload, hpath]
  refine List.filterMap_congr fun path _ => ?_
  cases hpath : d.leadsTo target path with
  | true =>
    rw [hnone d path hpath, hnone d' path ((Disk.leadsTo_eq h path).symm.trans hpath)]
  | false =>
    rw [load_eq h hpath]
    congr 1
    funext p
    rw [Disk.leadsTo_eq h]

/-- **Manifests that do not load are skipped, and do no harm.**  There is one project for
    each manifest that loads, in the order of the search, and none for the others.  If two
    disks differ in the contents of one file, whatever they are, then the projects of all
    other manifests are the same. -/
theorem loadAll_isolated (packages : PackageCache) (roots : List Path) :
    (∀ disk : Disk,
      (loadAll packages disk roots).map (·.manifest) =
        ((disk.glob manifestPattern roots).filter fun path => (load packages disk path).isOk) ∧
      ∀ project ∈ loadAll packages disk roots,
        load packages disk project.manifest = .ok project) ∧
    ∀ (target : List String) (d d' : Disk), d.DifferAt target d' →
      (loadAll packages d roots).filter (fun p => !d.leadsTo target p.manifest) =
        (loadAll packages d' roots).filter fun p => !d'.leadsTo target p.manifest :=
  ⟨fun _ => ⟨loadAll_manifests roots, fun _ => load_of_mem_loadAll⟩,
    fun _ _ _ h => loadAll_others h roots⟩

/-- Two manifests, in directories of the root. -/
def twoManifests (first second : String) : Disk :=
  { root := .directory [("a", .directory [("elm.json", .file first.toUTF8)]),
    ("b", .directory [("elm.json", .file second.toUTF8)])] }

/-- The least that the manifest of a package holds. -/
def leastManifest : String := "\x7b\"type\":\"package\",\"elm-version\":\"0.19.1\"\x7d"

theorem glob_twoManifests (first second : String) :
    (twoManifests first second).glob manifestPattern [⟨"/"⟩] =
      [⟨"/a/elm.json"⟩, ⟨"/b/elm.json"⟩] := by
  have hs : (⟨"/"⟩ : Path).steps = [.stay] := by decide
  have ha : (⟨"/"⟩ : Path).isAbsolute = true := by decide
  have hl : ¬ Disk.pathLimit ≤ (⟨"/"⟩ : Path).size ∧ ¬ Disk.pathLimit ≤ (⟨"/a"⟩ : Path).size ∧
      ¬ Disk.pathLimit ≤ (⟨"/b"⟩ : Path).size := by decide
  have hdirs : (⟨"/"⟩ : Path).join ⟨"a"⟩ = ⟨"/a"⟩ ∧ (⟨"/"⟩ : Path).join ⟨"b"⟩ = ⟨"/b"⟩ := by decide
  have hfiles : (⟨"/a"⟩ : Path).join ⟨"elm.json"⟩ = ⟨"/a/elm.json"⟩ ∧
      (⟨"/b"⟩ : Path).join ⟨"elm.json"⟩ = ⟨"/b/elm.json"⟩ := by decide
  have haccepts : manifestPattern.accepts ⟨"/a/elm.json"⟩ = true ∧
      manifestPattern.accepts ⟨"/b/elm.json"⟩ = true := by decide
  have hexcluded : manifestPattern.excludedDirs = ["elm-stuff", "node_modules"] := rfl
  simp [Disk.glob, Disk.globRoot, Disk.lookup, hs, ha, hl, twoManifests, Disk.walkFrom, Entry.get?,
    Entry.isDirectory, Disk.globEntries, Disk.globEntry, hdirs, hfiles, haccepts, hexcluded]

theorem load_twoManifests (first second : String) :
    load {} (twoManifests first second) ⟨"/a/elm.json"⟩ =
        ofContents {} ⟨"/a/elm.json"⟩ first.toUTF8 [] ∧
      load {} (twoManifests first second) ⟨"/b/elm.json"⟩ =
        ofContents {} ⟨"/b/elm.json"⟩ second.toUTF8 [] := by
  have hs : (⟨"/a/elm.json"⟩ : Path).steps = [.down "a", .down "elm.json"] ∧
      (⟨"/b/elm.json"⟩ : Path).steps = [.down "b", .down "elm.json"] := by decide
  have ha : (⟨"/a/elm.json"⟩ : Path).isAbsolute = true ∧
      (⟨"/b/elm.json"⟩ : Path).isAbsolute = true := by decide
  have hl : ¬ Disk.pathLimit ≤ (⟨"/a/elm.json"⟩ : Path).size ∧
      ¬ Disk.pathLimit ≤ (⟨"/b/elm.json"⟩ : Path).size := by decide
  have hnone : ∀ disk : Disk, disk.installedCompilers {} = [] := fun _ => rfl
  constructor <;>
    simp [load, Disk.contents, Disk.lookup, hs, ha, hl, hnone, twoManifests, Disk.walkFrom,
      Entry.get?, Entry.find?]

theorem loadAll_isolated_twoManifests :
    let broken := twoManifests "\x7b" leastManifest
    let fixed := twoManifests leastManifest leastManifest
    let place := ["a", "elm.json"]
    broken.DifferAt place fixed ∧
      (loadAll {} broken [⟨"/"⟩]).map (·.manifest) = [⟨"/b/elm.json"⟩] ∧
      (loadAll {} fixed [⟨"/"⟩]).map (·.manifest) = [⟨"/a/elm.json"⟩, ⟨"/b/elm.json"⟩] ∧
      (loadAll {} broken [⟨"/"⟩]).filter (fun p => !broken.leadsTo place p.manifest) =
        (loadAll {} fixed [⟨"/"⟩]).filter fun p => !fixed.leadsTo place p.manifest := by
  intro broken fixed place
  have hdiffer : broken.DifferAt place fixed := ⟨.head (.head (.file _ _)), rfl⟩
  have h := loadAll_isolated {} [⟨"/"⟩]
  refine ⟨hdiffer, ?_, ?_, h.2 place broken fixed hdiffer⟩
  · rw [(h.1 broken).1, glob_twoManifests, List.filter_cons, List.filter_cons, List.filter_nil,
      (load_twoManifests _ _).1, (load_twoManifests _ _).2]
    decide +kernel
  · rw [(h.1 fixed).1, glob_twoManifests, List.filter_cons, List.filter_cons, List.filter_nil,
      (load_twoManifests _ _).1, (load_twoManifests _ _).2]
    decide +kernel

end Project

end ElmAssist
