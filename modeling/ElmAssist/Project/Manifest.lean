/-
  Project manifests.

  A project is described by a file `elm.json`, of an application or a package, or
  by a file `elm-package.json` of older compilers.  `Manifest.read?` decodes the
  contents, `Manifest.project` resolves them to a `Project`.

  A record may be written as an object or as the list of its fields.  In an
  object, unknown members are skipped and a field that occurs twice is an error;
  in a map of dependencies the last value of a key counts.
-/
import ElmAssist.Json.Reader
import ElmAssist.Path.Normal
import ElmAssist.Project.Basic
import ElmAssist.Project.PackageCache
import ElmAssist.Version

namespace ElmAssist

/-- The name of a manifest. -/
def manifestName : String := "elm.json"

/-- The name of a manifest for older compilers. -/
def legacyManifestName : String := "elm-package.json"

/-- Whether a path names a manifest of either kind. -/
def isManifest (p : Path) : Bool :=
  p.fileName == some manifestName || p.fileName == some legacyManifestName

/-! ## Contents -/

/-- Packages with their versions or constraints, in strictly increasing order of
    their names. -/
abbrev PackageMap := List (String × String)

/-- The map with a package added, replacing the one of the same name. -/
def PackageMap.insert (name version : String) : PackageMap → PackageMap
  | [] => [(name, version)]
  | (n, v) :: rest =>
    if name < n then (name, version) :: (n, v) :: rest
    else if name = n then (name, version) :: rest
    else (n, v) :: PackageMap.insert name version rest

/-- The contents of a manifest. -/
inductive Manifest where
  /-- An application. -/
  | application (elmVersion : String) (sourceDirectories : List String) (direct : PackageMap)
  /-- A package. -/
  | package (elmVersion : String) (dependencies : PackageMap)
  /-- A project of an older compiler. -/
  | legacy (elmVersion : Option String) (sourceDirectories : List String)
      (dependencies : PackageMap)
  deriving DecidableEq, Repr

namespace Manifest

open Json

/-! ## Decoding fields -/

/-- The member of an object that is a field: `some none` if it is missing, `none`
    if it occurs twice. -/
def field? {α : Type} (key : String) (members : List (String × α)) : Option (Option α) :=
  match members.filter (·.1 == key) with
  | [] => some none
  | [member] => some (some member.2)
  | _ => none

/-- The member of an object that is a field and may not be missing. -/
def requiredField? (key : String) (members : List (String × Json)) : Option Json :=
  (field? key members).join

/-- A list of texts. -/
def strings? (j : Json) : Option (List String) :=
  j.array?.bind fun items => items.mapM (·.string?)

/-- A map from texts to texts. -/
def packages? (j : Json) : Option PackageMap := do
  let members ← j.object?
  let entries ← members.mapM fun (key, value) => value.string?.map fun s => (key, s)
  return entries.foldl (fun map (key, s) => map.insert key s) []

/-- The dependencies of an application: the direct ones count. -/
def direct? : Json → Option PackageMap
  | .object members => (requiredField? "direct" members).bind packages?
  | .array [direct] => packages? direct
  | _ => none

/-! ## Decoding manifests -/

/-- The fields of an application. -/
def application? (elmVersion sourceDirectories dependencies : Json) : Option Manifest := do
  return .application (← elmVersion.string?) (← strings? sourceDirectories) (← direct? dependencies)

/-- The fields of a package; dependencies may be missing. -/
def package? (elmVersion : Json) (dependencies : Option Json) : Option Manifest := do
  let deps ← match dependencies with
    | some deps => packages? deps
    | none => some []
  return .package (← elmVersion.string?) deps

/-- The compiler version of an older project: it may be missing or `null`. -/
def legacyVersion? : Option Json → Option (Option String)
  | none | some .null => some none
  | some j => j.string?.map some

/-- The fields of an older project; dependencies may be missing. -/
def legacy? (elmVersion : Option Json) (sourceDirectories : Json) (dependencies : Option Json) :
    Option Manifest := do
  let version ← legacyVersion? elmVersion
  let dirs ← strings? sourceDirectories
  let deps ← match dependencies with
    | some deps => packages? deps
    | none => some []
  return .legacy version dirs deps

/-- Decodes `elm.json` from its value. -/
def ofJson? : Json → Option Manifest
  | .object members => do
    let tag ← (← requiredField? "type" members).string?
    let elmVersion ← requiredField? "elm-version" members
    let dependencies ← field? "dependencies" members
    if tag = "application" then
      application? elmVersion (← requiredField? "source-directories" members) (← dependencies)
    else if tag = "package" then package? elmVersion dependencies
    else none
  | .array [.string "application", elmVersion, sourceDirectories, dependencies] =>
    application? elmVersion sourceDirectories dependencies
  | .array [.string "package", elmVersion] => package? elmVersion none
  | .array [.string "package", elmVersion, dependencies] => package? elmVersion (some dependencies)
  | _ => none

/-- The value of a field whose syntax tree is given, if it has no flaw. -/
def fieldValue? (raw : Option Raw) : Option (Option Json) :=
  match raw with
  | none => some none
  | some raw => (raw.value? maxDepth).map some

/-- The members of an object whose keys have no flaw. -/
def keyed? (members : List (Option String × Raw)) : Option (List (String × Raw)) :=
  members.mapM fun (key, raw) => key.map fun k => (k, raw)

/-- Decodes `elm-package.json` from its syntax tree.  Values of unknown members
    are skipped, whatever they hold. -/
def ofRaw? : Raw → Option Manifest
  | .object members => do
    let members ← keyed? members
    let elmVersion ← fieldValue? (← field? "elm-version" members)
    let dirs ← fieldValue? (← field? "source-directories" members)
    let dependencies ← fieldValue? (← field? "dependencies" members)
    legacy? elmVersion (← dirs) dependencies
  | .array items => do
    match ← Raw.values? maxDepth items with
    | [elmVersion, dirs] => legacy? (some elmVersion) dirs none
    | [elmVersion, dirs, dependencies] => legacy? (some elmVersion) dirs (some dependencies)
    | _ => none
  | _ => none

/-- Whether a manifest is one of an older compiler. -/
def isLegacy (path : Path) : Bool :=
  path.fileName == some legacyManifestName

/-- Decodes the contents of a manifest. -/
def read? (path : Path) (bytes : ByteArray) : Option Manifest :=
  if isLegacy path then (Raw.read? bytes.toList).bind ofRaw?
  else (Json.parse? bytes.toList).bind ofJson?

/-! ## Projects -/

/-- Source directories seen from the directory of the manifest. -/
def resolveDirs (base : Path) (dirs : List String) : List Path :=
  dirs.map fun dir => (base.join (.ofText dir)).normalize

/-- The dependencies that a map declares, installed where `place` says. -/
def dependencies (declared : PackageMap) (place : String → String → Path) : List Dependency :=
  declared.map fun (name, constraint) =>
    let version := lowerBound constraint
    ⟨name, version, place name version⟩

/-- The dependencies of a project in the package cache; there are none without a
    package root. -/
def cachedDependencies (cache : PackageCache) (elmVersion : String) (declared : PackageMap) :
    List Dependency :=
  match cache.root? with
  | some root => dependencies declared (packagePath root elmVersion)
  | none => []

/-- The project that a manifest describes, or `none` if it lacks its compiler
    version.  `installed` are the compilers found in the package cache. -/
def project? (path : Path) (cache : PackageCache) (installed : List String) :
    Manifest → Option Project
  | .application elmVersion dirs direct => some
    { manifest := path
      kind := .application
      elmVersion
      sourceDirectories := resolveDirs (Project.manifestDir path) dirs
      dependencies := cachedDependencies cache elmVersion direct }
  | .package constraint declared =>
    let elmVersion := compilerVersion constraint installed
    some
      { manifest := path
        kind := .package
        elmVersion
        sourceDirectories := [(Project.manifestDir path).join ⟨"src"⟩]
        dependencies := cachedDependencies cache elmVersion declared }
  | .legacy elmVersion dirs declared => elmVersion.map fun constraint =>
    let dir := Project.manifestDir path
    let packages := (dir.join ⟨"elm-stuff"⟩).join ⟨"packages"⟩
    { manifest := path
      kind := .application
      elmVersion := lowerBound constraint
      sourceDirectories := resolveDirs dir dirs
      dependencies := dependencies declared (installedBelow packages) }

end Manifest

end ElmAssist
