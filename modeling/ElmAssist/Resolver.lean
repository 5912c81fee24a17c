/-
  Finding projects and modules.

  A `Resolver` holds the projects of a workspace.  They are loaded from the roots
  when they are first needed, and again only by `refresh`; neither new roots nor
  changes on disk have an effect before that.

  `moduleByName` looks for a module as it is seen from a file: in the project
  that owns the file, at the first candidate that can be loaded.
-/
import ElmAssist.Disk.Glob
import ElmAssist.ModuleCache
import ElmAssist.Project.Manifest

namespace ElmAssist

/-! ## Loading projects -/

/-- Why a manifest gives no project. -/
inductive ManifestError where
  /-- The manifest could not be read. -/
  | unreadable (cause : ReadError)
  /-- The manifest is malformed. -/
  | invalid (path : Path)
  /-- The manifest lacks a field. -/
  | missingField (path : Path) (field : String)
  deriving DecidableEq, Repr

/-- The wording of an error. -/
def ManifestError.message : ManifestError → String
  | unreadable cause => cause.message
  | invalid path => "invalid manifest " ++ path.shown
  | missingField path field => "manifest " ++ path.shown ++ " is missing " ++ field

/-- The project that the contents of a manifest describe. -/
def Project.ofContents (packages : PackageCache) (path : Path) (contents : ByteArray)
    (installed : List String) : Except ManifestError Project :=
  match Manifest.read? path contents with
  | none => .error (.invalid path)
  | some manifest =>
    match manifest.project? path packages installed with
    | some project => .ok project
    | none => .error (.missingField path "elm-version")

/-- The compilers that have packages in the cache. -/
def Disk.installedCompilers (disk : Disk) (packages : PackageCache) : List String :=
  match packages.root? with
  | some root => disk.listDirs root
  | none => []

/-- Loads the project of a manifest. -/
def Project.load (packages : PackageCache) (disk : Disk) (manifest : Path) :
    Except ManifestError Project :=
  match disk.contents manifest with
  | .error cause => .error (.unreadable cause)
  | .ok contents =>
    Project.ofContents packages manifest contents (disk.installedCompilers packages)

/-- The directories that hold downloaded packages; they are never searched. -/
def downloadDirs : List String := ["elm-stuff", "node_modules"]

/-- The search for manifests. -/
def manifestPattern : GlobPattern :=
  { fileNames := [manifestName, legacyManifestName], excludedDirs := downloadDirs }

/-- Loads the projects of all manifests below the roots, in the order of the
    search.  Manifests that do not load are skipped. -/
def Project.loadAll (packages : PackageCache) (disk : Disk) (roots : List Path) : List Project :=
  (disk.glob manifestPattern roots).filterMap fun manifest =>
    (Project.load packages disk manifest).toOption

/-! ## The resolver -/

/-- The projects of a workspace. -/
structure Resolver where
  packages : PackageCache := {}
  roots : List Path := []
  /-- The projects, once they have been loaded. -/
  projects : Option (List Project) := none
  deriving DecidableEq, Repr

namespace Resolver

/-- Replaces the roots; the projects stay as they are. -/
def setRoots (r : Resolver) (roots : List Path) : Resolver :=
  { r with roots }

/-- The projects as the roots and the disk have them now. -/
def load (r : Resolver) (disk : Disk) : List Project :=
  Project.loadAll r.packages disk r.roots

/-- Loads the projects again. -/
def refresh (r : Resolver) (disk : Disk) : Resolver :=
  { r with projects := some (r.load disk) }

/-- Loads the projects unless they are loaded. -/
def loaded (r : Resolver) (disk : Disk) : Resolver :=
  if r.projects.isSome then r else r.refresh disk

/-- The projects as far as they are loaded. -/
def known (r : Resolver) : List Project :=
  r.projects.getD []

/-- The first project that owns a file. -/
def owner? (r : Resolver) (file : Path) : Option Project :=
  r.known.find? (·.owns file)

/-- The first project that owns a file, after loading the projects if needed. -/
def projectFor (r : Resolver) (disk : Disk) (file : Path) : Option Project × Resolver :=
  let r := r.loaded disk
  (r.owner? file, r)

end Resolver

/-! ## Modules -/

/-- A module and the file it was loaded from. -/
structure ResolvedModule where
  path : Path
  parsed : Elm.Module
  deriving DecidableEq, Repr

/-- The first of some files that can be loaded. -/
def ModuleCache.firstLoadable (parse : Elm.SourceParser) (disk : Disk) (cache : ModuleCache) :
    List Path → Option ResolvedModule × ModuleCache
  | [] => (none, cache)
  | p :: rest =>
    match cache.get parse disk p with
    | (some m, cache) => (some ⟨p, m⟩, cache)
    | (none, cache) => firstLoadable parse disk cache rest

/-- The state of a workspace: its projects and the modules parsed so far. -/
structure Workspace where
  resolver : Resolver := {}
  cache : ModuleCache := {}
  deriving DecidableEq, Repr

/-- Looks for a module as it is seen from a file. -/
def Workspace.moduleByName (parse : Elm.SourceParser) (disk : Disk) (w : Workspace) (file : Path)
    (moduleName : String) : Option ResolvedModule × Workspace :=
  match w.resolver.projectFor disk file with
  | (none, resolver) => (none, { w with resolver })
  | (some project, resolver) =>
    let (found, cache) := w.cache.firstLoadable parse disk (project.candidates moduleName)
    (found, { resolver, cache })

/-- The search for source files. -/
def sourcePattern : GlobPattern :=
  { extension := some sourceExtension, excludedDirs := downloadDirs }

/-- The names of the modules in the source directories of a project, in
    increasing order and without repetition. -/
def Project.workspaceModules (disk : Disk) (p : Project) : List String :=
  let names := p.sourceDirectories.flatMap fun dir =>
    (disk.glob sourcePattern [dir]).filterMap (moduleName? dir)
  (names.mergeSort fun a b => decide (a ≤ b)).eraseReps

end ElmAssist
