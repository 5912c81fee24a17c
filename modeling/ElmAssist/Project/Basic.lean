/-
  Projects and where their modules are.

  A `Project` has a manifest, source directories and dependencies.  It owns the
  files below its source directories.  A module is looked for in the source
  directories first and then in the dependencies, in order
  (`Project.candidates`), so a local module shadows a package module of the same
  name.

  `modulePath` and `moduleName?` relate module names and file names:
  `Html.Attributes` is the file `Html/Attributes.elm`.
-/
import ElmAssist.Path.Bytes
import ElmAssist.Text.Alphanumeric

namespace ElmAssist

/-! ## Projects -/

/-- The two kinds of projects. -/
inductive ProjectKind where
  /-- A program. -/
  | application
  /-- A library. -/
  | package
  deriving DecidableEq, Repr

/-- A package that a project uses. -/
structure Dependency where
  name : String
  version : String
  /-- Where the package is installed, whether or not it is. -/
  packagePath : Path
  deriving DecidableEq, Repr

/-- The directory that holds the modules of a package. -/
def Dependency.sourceDir (d : Dependency) : Path :=
  d.packagePath.join ⟨"src"⟩

/-- A project. -/
structure Project where
  manifest : Path
  kind : ProjectKind
  elmVersion : String
  sourceDirectories : List Path
  dependencies : List Dependency
  deriving DecidableEq, Repr

namespace Project

/-- The directory of a manifest. -/
def manifestDir (manifest : Path) : Path :=
  manifest.parent.getD ⟨"/"⟩

/-- The directory of the project. -/
def root (p : Project) : Path :=
  manifestDir p.manifest

/-- Whether a file lies in one of the source directories. -/
def owns (p : Project) (file : Path) : Bool :=
  p.sourceDirectories.any fun dir => file.startsWith dir

end Project

/-! ## Files of modules -/

/-- The extension of source files. -/
def sourceExtension : String := "elm"

/-- The text of the path of a module below its source directory. -/
def moduleFile (moduleName : String) : String :=
  String.ofList (moduleName.toList.map fun c => if c = '.' then '/' else c) ++ "." ++
    sourceExtension

/-- The file of a module below its source directory. -/
def modulePath (moduleName : String) : Path :=
  .ofText (moduleFile moduleName)

/-- The parts of a module name that the components of a file below its source
    directory give: the last one without its extension.  All of them have to be text. -/
def moduleSegments? (components : List Path.Component) : Option (List String) :=
  match components.getLast? with
  | some (.name file) =>
    match Path.splitExtension file with
    | (stem, some ext) =>
      if ext = sourceExtension then
        (components.dropLast.map (·.text) ++ [stem]).mapM Path.textOf?
      else none
    | _ => none
  | _ => none

/-- The name of the module in a file of a source directory.  Every part of it is
    capitalised. -/
def moduleName? (dir file : Path) : Option String := do
  let components ← file.below? dir
  let segments ← moduleSegments? components
  guard (segments.all Text.isCapitalized)
  return ".".intercalate segments

/-- The files that may hold a module, in the order in which they are tried. -/
def Project.candidates (p : Project) (moduleName : String) : List Path :=
  (p.sourceDirectories ++ p.dependencies.map (·.sourceDir)).map fun dir =>
    dir.join (modulePath moduleName)

end ElmAssist
