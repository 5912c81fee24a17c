/-
  The dependencies of a project.

  * `components_installedBelow`: where a package is installed.
  * `dependencies_installed`: which dependencies a project has.
-/
import ElmAssist.Proofs.Path.Bytes
import ElmAssist.Proofs.Project.Declared
import ElmAssist.Proofs.Project.Loading
import ElmAssist.Proofs.Text.ByteOrder
import ElmAssist.Proofs.Versions

namespace ElmAssist

open Json

/-! ## Installed packages -/

namespace Path

variable {p q : Path}

theorem text_join_ne (hq : q.text ≠ "") : (p.join q).text ≠ "" := by
  unfold join
  split
  · exact hq
  · split <;> simp [hq]

/-- Behind a directory, a path stands for its components other than a leading `.`. -/
theorem components_join_filter (hp : p.text ≠ "") (hq : q.isAbsolute = false) :
    (p.join q).components = p.components ++ q.components.filter (· != .here) := by
  obtain ⟨lead, hlead, hcomponents⟩ := components_eq_append q
  rw [hq, if_neg Bool.false_ne_true] at hlead
  have hpieces : (q.pieces.filterMap Component.ofPiece?).filter (· != .here) =
      q.pieces.filterMap Component.ofPiece? := by
    refine List.filter_eq_self.2 fun c hc => ?_
    obtain ⟨piece, hpiece, hc⟩ := List.mem_filterMap.1 hc
    exact bne_iff_ne.2 (isPiece_of_mem_pieces hpiece hc).ne_here
  rw [components_join_of_relative hp hq, hcomponents, List.filter_append, hpieces]
  rcases hlead with rfl | rfl <;> rfl

theorem isAbsolute_segment {segment : String} (h : '/' ∉ segment.toList) :
    (ofText segment).isAbsolute = false := by
  rw [isAbsolute, beq_eq_false_iff_ne]
  exact fun hhead => h ((mem_spell (by decide)).1 (List.mem_of_mem_head? hhead))

theorem components_join_segment {segment : String} (hp : p.text ≠ "")
    (h : '/' ∉ segment.toList) : (p.join (ofText segment)).components =
      p.components ++ (Component.ofPiece? segment.toList).toList.map Component.spell := by
  have hpieces : (ofText segment).pieces = [segment.toList.flatMap spellChar] := by
    rw [pieces, ofText, Text.splitList_of_not_mem (mt (mem_spell (by decide)).1 h), toList_spell]
  rw [components_join_of_relative hp (isAbsolute_segment h), hpieces, List.filterMap_cons,
    ofPiece?_spell]
  cases Component.ofPiece? segment.toList <;> rfl

theorem text_join_segment {segment : String} (hp : p.text ≠ "") (h : '/' ∉ segment.toList) :
    (p.join (ofText segment)).text ≠ "" := by
  rw [join, isAbsolute_segment h, if_neg Bool.false_ne_true]
  split <;> simp [hp]

/-- The directory that is reached from a directory along some segments. -/
def along (p : Path) (segments : List String) : Path :=
  segments.foldl (fun dir segment => dir.join (ofText segment)) p

theorem along_cons (p : Path) (segment : String) (segments : List String) :
    p.along (segment :: segments) = (p.join (ofText segment)).along segments :=
  List.foldl_cons ..

theorem text_along {segments : List String} (hp : p.text ≠ "")
    (h : ∀ segment ∈ segments, '/' ∉ segment.toList) : (p.along segments).text ≠ "" := by
  induction segments generalizing p with
  | nil => exact hp
  | cons segment segments ih =>
    rw [List.forall_mem_cons] at h
    rw [along_cons]
    exact ih (text_join_segment hp h.1) h.2

theorem components_along {segments : List String} (hp : p.text ≠ "")
    (h : ∀ segment ∈ segments, '/' ∉ segment.toList) :
    (p.along segments).components = p.components ++ (segments.filterMap fun segment =>
      Component.ofPiece? segment.toList).map Component.spell := by
  induction segments generalizing p with
  | nil => simp [along]
  | cons segment segments ih =>
    rw [List.forall_mem_cons] at h
    rw [along_cons, ih (text_join_segment hp h.1) h.2, components_join_segment hp h.1,
      List.append_assoc, List.filterMap_cons]
    cases Component.ofPiece? segment.toList <;> rfl

/-- The component that a segment spells which is neither empty nor `.`. -/
def Component.ofSegment (segment : String) : Component :=
  if segment = ".." then .up else .name (Path.spell segment)

theorem filterMap_segments (segments : List String) :
    (segments.filterMap fun segment => Component.ofPiece? segment.toList).map Component.spell =
      (segments.filter fun segment => segment ≠ "" ∧ segment ≠ ".").map Component.ofSegment := by
  rw [List.map_filterMap, ← List.filterMap_eq_map, ← List.filterMap_eq_filter,
    List.filterMap_filterMap]
  refine List.filterMap_congr fun segment _ => ?_
  have hempty : segment.toList = [] ↔ segment = "" := String.toList_eq_nil_iff
  have hdot : segment.toList = ['.'] ↔ segment = "." :=
    (String.toList_inj : segment.toList = ".".toList ↔ _)
  have hup : segment.toList = ['.', '.'] ↔ segment = ".." :=
    (String.toList_inj : segment.toList = "..".toList ↔ _)
  simp only [Component.ofPiece?, hempty, hdot, hup, String.ofList_toList]
  by_cases h : segment = "" ∨ segment = "."
  · rcases h with rfl | rfl <;> rfl
  · rw [if_neg h]
    rw [not_or] at h
    simp [Option.guard, h, Component.ofSegment, apply_ite, Component.spell]

end Path

theorem components_installedBelow {packages : Path} (h : packages.text ≠ "") (package : String)
    {version : String} (hversion : (Path.ofText version).isAbsolute = false) :
    (installedBelow packages package version).components = packages.components ++
      ((Text.split '/' package).filter fun s => s ≠ "" ∧ s ≠ ".").map Path.Component.ofSegment ++
      (Path.ofText version).components.filter (· != .here) := by
  have hsegments : ∀ segment ∈ Text.split '/' package, '/' ∉ segment.toList :=
    fun _ => Text.not_mem_of_mem_split
  rw [← Path.filterMap_segments, ← Path.components_along h hsegments]
  exact Path.components_join_filter (Path.text_along h hsegments) hversion

/-! ## Dependencies -/

/-- A name that is listed has a last value. -/
theorem exists_isLastValue {entries : List (String × String)} {name constraint : String}
    (h : (name, constraint) ∈ entries) : ∃ value, IsLastValue entries name value := by
  induction entries generalizing constraint with
  | nil => cases h
  | cons e entries ih =>
    by_cases hlater : ∃ value, (name, value) ∈ entries
    · obtain ⟨value, hvalue⟩ := hlater
      obtain ⟨last, before, after, rfl, hafter⟩ := ih hvalue
      exact ⟨last, e :: before, after, rfl, hafter⟩
    · have hnone : ∀ other ∈ entries, other.1 ≠ name := by
        rintro ⟨_, value⟩ hother rfl
        exact hlater ⟨value, hother⟩
      rcases List.mem_cons.1 h with rfl | h
      · exact ⟨constraint, [], entries, rfl, hnone⟩
      · exact absurd ⟨constraint, h⟩ hlater

theorem IsLastValue.mem {entries : List (String × String)} {name value : String}
    (h : IsLastValue entries name value) : (name, value) ∈ entries := by
  obtain ⟨before, after, rfl, -⟩ := h
  simp

namespace Project

/-- The directory of the packages that a project uses: its own one for an older compiler, and
    else that of its compiler version below the package root. -/
def packagesDir (root path : Path) (elmVersion : String) : Path :=
  if Manifest.isLegacy path then ((manifestDir path).join ⟨"elm-stuff"⟩).join ⟨"packages"⟩
  else (root.join (.ofText elmVersion)).join ⟨"packages"⟩

variable {packages : PackageCache} {path root : Path} {contents : ByteArray}
  {installed : List String} {project : Project}

theorem text_packagesDir (root path : Path) (elmVersion : String) :
    (packagesDir root path elmVersion).text ≠ "" := by
  unfold packagesDir
  split <;> exact Path.text_join_ne (by decide)

theorem packagesDir_of_older (h : Manifest.isLegacy path = true) (root : Path)
    (elmVersion : String) : packagesDir root path elmVersion =
      ((manifestDir path).join ⟨"elm-stuff"⟩).join ⟨"packages"⟩ :=
  if_pos h

theorem packagesDir_of_current (h : Manifest.isLegacy path = false) (root : Path)
    (elmVersion : String) :
    packagesDir root path elmVersion = (root.join (.ofText elmVersion)).join ⟨"packages"⟩ :=
  if_neg (by rw [h]; exact Bool.false_ne_true)

theorem cachedDependencies_eq (hroot : packages.root? = some root)
    (hcurrent : Manifest.isLegacy path = false) (elmVersion : String) (map : PackageMap) :
    Manifest.cachedDependencies packages elmVersion map =
      Manifest.dependencies map (installedBelow (packagesDir root path elmVersion)) := by
  rw [Manifest.cachedDependencies, hroot, packagesDir_of_current hcurrent]
  rfl

/-- The dependencies are the declared packages, in the directory of the packages. -/
theorem dependencies_eq {manifest : Manifest} (hroot : packages.root? = some root)
    (holder : manifest.older = Manifest.isLegacy path)
    (h : manifest.project? path packages installed = some project) :
    project.dependencies = Manifest.dependencies manifest.declared
      (installedBelow (packagesDir root path project.elmVersion)) := by
  cases manifest with
  | application version dirs direct =>
    obtain rfl := Option.some.inj h
    exact cachedDependencies_eq hroot holder.symm version direct
  | package constraint dependencies =>
    obtain rfl := Option.some.inj h
    exact cachedDependencies_eq hroot holder.symm _ dependencies
  | legacy version dirs dependencies =>
    obtain ⟨constraint, -, rfl⟩ := Option.map_eq_some_iff.1 h
    rw [packagesDir_of_older holder.symm]
    rfl

/-- **The dependencies of a project** are the packages that its manifest lists, in the order of
    their names.  The last value of a name counts, and its first word is the version.  Unless
    that is an absolute path, the package is installed below the directory of the packages,
    along the segments of its name and then in its version. -/
theorem dependencies_installed (hroot : packages.root? = some root)
    (h : ofContents packages path contents installed = .ok project) :
    ∃ tree entries, Raw.read? contents.toList = some tree ∧
      Manifest.HasEntries (Manifest.dependencyMap? (Manifest.isLegacy path) tree) entries ∧
      (project.dependencies.map (·.name)).Pairwise (fun a b => Text.bytes a < Text.bytes b) ∧
      (∀ name, (∃ d ∈ project.dependencies, d.name = name) ↔
        ∃ constraint, (name, constraint) ∈ entries) ∧
      ∀ d ∈ project.dependencies,
        (∃ constraint, IsLastValue entries d.name constraint ∧
          IsLowerBound constraint d.version) ∧
        ((Path.ofText d.version).isAbsolute = false →
          d.packagePath.components = (packagesDir root path project.elmVersion).components ++
            ((Text.split '/' d.name).filter fun s => s ≠ "" ∧ s ≠ ".").map
              Path.Component.ofSegment ++
            (Path.ofText d.version).components.filter (· != .here)) := by
  obtain ⟨manifest, hread, hproject⟩ := ofContents_eq_ok_iff.1 h
  obtain ⟨holder, tree, entries, htree, hentries, hdeclared⟩ := Manifest.exists_declared hread
  have hdeps := dependencies_eq hroot holder hproject
  rw [hdeclared] at hdeps
  have hmem : ∀ d, d ∈ project.dependencies ↔ ∃ name constraint,
      IsLastValue entries name constraint ∧ d = ⟨name, lowerBound constraint,
        installedBelow (packagesDir root path project.elmVersion) name (lowerBound constraint)⟩ := by
    intro d
    rw [hdeps, Manifest.dependencies, List.mem_map, Prod.exists]
    simp only [PackageMap.mem_ofEntries, eq_comm]
  refine ⟨tree, entries, htree, hentries, ?_, fun name => ⟨?_, ?_⟩, fun d hd => ?_⟩
  · rw [hdeps, Manifest.dependencies, List.map_map, List.pairwise_map]
    exact (PackageMap.ordered_ofEntries entries).imp Text.bytes_lt_iff.2
  · rintro ⟨d, hd, rfl⟩
    obtain ⟨name, constraint, hlast, rfl⟩ := (hmem d).1 hd
    exact ⟨constraint, hlast.mem⟩
  · rintro ⟨constraint, hconstraint⟩
    obtain ⟨value, hvalue⟩ := exists_isLastValue hconstraint
    exact ⟨_, (hmem _).2 ⟨name, value, hvalue, rfl⟩, rfl⟩
  · obtain ⟨name, constraint, hlast, rfl⟩ := (hmem d).1 hd
    refine ⟨⟨constraint, hlast, isLowerBound_lowerBound constraint⟩, fun hversion => ?_⟩
    dsimp only at hversion ⊢
    exact components_installedBelow (text_packagesDir root path project.elmVersion) name hversion

/-- A package that is listed twice, and one with empty segments and dots in its name. -/
theorem dependencies_installed_twiceListed :
    let path : Path := ⟨"/work/elm.json"⟩
    let packages : PackageCache := { chosenRoot := some ⟨"/cache"⟩ }
    let contents := ("\x7b\"dependencies\":\x7b\"direct\":\x7b\"b/y\":\"1\",\"./a//../x\":\" 2 <= v\"," ++
      "\"b/y\":\"1.5/./z\"\x7d\x7d,\"type\":\"application\",\"elm-version\":\"0.19.1\"," ++
      "\"source-directories\":[]\x7d").toUTF8
    ∃ project, packages.root? = some ⟨"/cache"⟩ ∧
      ofContents packages path contents [] = .ok project ∧
      project.dependencies.map (fun d => (d.name, d.version)) =
        [("./a//../x", "2"), ("b/y", "1.5/./z")] ∧
      ∀ d ∈ project.dependencies, d.packagePath.components =
        [.root, .name "cache", .name "0.19.1", .name "packages"] ++
          ((Text.split '/' d.name).filter fun s => s ≠ "" ∧ s ≠ ".").map
            Path.Component.ofSegment ++
          (Path.ofText d.version).components.filter (· != .here) := by
  intro path packages contents
  have hroot : packages.root? = some ⟨"/cache"⟩ := rfl
  have h : ofContents packages path contents [] = .ok
      { manifest := path, kind := .application, elmVersion := "0.19.1", sourceDirectories := []
        dependencies :=
          [⟨"./a//../x", "2", ⟨"/cache/0.19.1/packages/./a/../x/2"⟩⟩,
            ⟨"b/y", "1.5/./z", ⟨"/cache/0.19.1/packages/b/y/1.5/./z"⟩⟩] } := by decide +kernel
  obtain ⟨tree, entries, -, -, -, -, hplace⟩ := dependencies_installed hroot h
  refine ⟨_, hroot, h, rfl, fun d hd => ?_⟩
  have hrelative : (Path.ofText d.version).isAbsolute = false := by
    rcases List.mem_cons.1 hd with rfl | hd
    · decide
    · obtain rfl := List.mem_singleton.1 hd
      decide
  have hdir : (packagesDir ⟨"/cache"⟩ path "0.19.1").components =
      [.root, .name "cache", .name "0.19.1", .name "packages"] := by decide
  rw [(hplace d hd).2 hrelative, hdir]

end Project

end ElmAssist
