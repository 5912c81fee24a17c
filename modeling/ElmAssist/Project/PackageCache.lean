/-
  Where installed packages are.

  Packages are installed below one root directory, in
  `<root>/<compiler version>/packages/<author>/<name>/<version>`.  The root is
  chosen by the user, or else lies in the home directory.
-/
import ElmAssist.Path.Bytes

namespace ElmAssist

/-- The choice of the package root. -/
structure PackageCache where
  /-- The root that the user has chosen. -/
  chosenRoot : Option Path := none
  /-- The home directory. -/
  home : Option Path := none
  deriving DecidableEq, Repr

namespace PackageCache

/-- The choice that the environment makes: a root that is set and not empty, and
    the home directory. -/
def ofEnvironment (elmHome : Option String) (home : Option Path) : PackageCache :=
  { chosenRoot := (elmHome.filter (!·.isEmpty)).map .ofText, home }

/-- The package root, if there is a home directory or a choice. -/
def root? (c : PackageCache) : Option Path :=
  c.chosenRoot.or (c.home.map (·.join ⟨".elm"⟩))

end PackageCache

/-- The directory of a package below a directory of packages: the parts of its
    name, then its version. -/
def installedBelow (packages : Path) (package version : String) : Path :=
  ((Text.split '/' package).foldl (fun dir part => dir.join (.ofText part)) packages).join
    (.ofText version)

/-- The directory of an installed package. -/
def packagePath (root : Path) (elmVersion package version : String) : Path :=
  installedBelow ((root.join (.ofText elmVersion)).join ⟨"packages"⟩) package version

end ElmAssist
