/-
  Searching directories.

  `Disk.glob` lists the regular files below a root that match a pattern, in
  component-wise order of their names.  Directories with an excluded name are not
  entered, the root itself excepted, and neither are those whose path is too long
  to be listed.  Links are neither files nor directories, except that a root which
  is a link to a directory is entered.
-/
import ElmAssist.Disk.Basic

namespace ElmAssist

/-- Which files a search returns.  Names are given as paths spell them. -/
structure GlobPattern where
  /-- The file names to look for. -/
  fileNames : List String := []
  /-- The extension to look for. -/
  extension : Option String := none
  /-- The names of directories that are not entered. -/
  excludedDirs : List String := []
  deriving DecidableEq, Repr

/-- Whether a file matches: by its name or by its extension. -/
def GlobPattern.accepts (pattern : GlobPattern) (p : Path) : Bool :=
  p.fileName.any pattern.fileNames.contains ||
    (pattern.extension.isSome && p.extension == pattern.extension)

namespace Disk

mutual

/-- The matching files at an entry of a directory and below it; `p` is its path. -/
def globEntry (pattern : GlobPattern) (p : Path) (name : String) : Entry → List Path
  | .file _ => if pattern.accepts p then [p] else []
  | .directory entries =>
    if pattern.excludedDirs.contains name || decide (pathLimit ≤ p.size) then []
    else globEntries pattern p entries
  | .link _ => []

/-- The matching files among the entries of a directory and below them. -/
def globEntries (pattern : GlobPattern) (dir : Path) : List (String × Entry) → List Path
  | [] => []
  | (name, entry) :: rest =>
    globEntry pattern (dir.join ⟨name⟩) name entry ++ globEntries pattern dir rest

end

/-- The matching files at or below one root. -/
def globRoot (d : Disk) (pattern : GlobPattern) (root : Path) : List Path :=
  match d.lookup false root with
  | .entry _ (.file _) => if pattern.accepts root then [root] else []
  | .entry _ (.directory entries) => globEntries pattern root entries
  | .entry _ (.link _) =>
    match d.lookup true root with
    | .entry _ (.directory entries) => globEntries pattern root entries
    | _ => []
  | _ => []

/-- The matching files below several roots, root by root. -/
def glob (d : Disk) (pattern : GlobPattern) (roots : List Path) : List Path :=
  roots.flatMap (d.globRoot pattern)

end Disk

end ElmAssist
