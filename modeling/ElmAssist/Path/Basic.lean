/-
  Paths.

  A `Path` is the text by which a file is named, kept as it was written.  What
  it means is its list of `Component`s: repeated slashes, a trailing slash and a
  `.` other than a leading one do not count, so `a//b/./c/` and `a/b/c` name the
  same file (`Path.same`).

  * `join` appends a relative path and is replaced by an absolute one;
  * `parent` drops the last component and keeps the text before it as it is;
  * `startsWith` and `below?` compare component by component, so `/w/src` is no
    beginning of `/w/src-extra`.
-/
import ElmAssist.Text.Split

namespace ElmAssist

/-- The name of a file, as written. -/
structure Path where
  /-- The text of the path. -/
  text : String
  deriving DecidableEq, Repr, Inhabited

namespace Path

/-! ## Components -/

/-- One step of a path. -/
inductive Component where
  /-- The leading slash of an absolute path. -/
  | root
  /-- A leading `.`. -/
  | here
  /-- A `..`. -/
  | up
  /-- The name of a file or directory. -/
  | name (text : String)
  deriving DecidableEq, Repr

/-- A component as it is written. -/
def Component.text : Component → String
  | root => "/"
  | here => "."
  | up => ".."
  | name s => s

/-- The component that a piece between two slashes stands for, if any. -/
def Component.ofPiece? (piece : List Char) : Option Component :=
  if piece = [] ∨ piece = ['.'] then none
  else if piece = ['.', '.'] then some up
  else some (name (String.ofList piece))

/-- The components of the pieces of a path, the first of which tells an
    absolute path (empty) and a leading `.` apart. -/
def componentsOfPieces : List (List Char) → List Component
  | [] => []
  | [[]] => []
  | [] :: pieces => .root :: pieces.filterMap Component.ofPiece?
  | first :: pieces =>
    (if first = ['.'] then some Component.here else Component.ofPiece? first).toList ++
      pieces.filterMap Component.ofPiece?

/-- The pieces of a path between its slashes. -/
def pieces (p : Path) : List (List Char) :=
  Text.splitList '/' p.text.toList

/-- The components of a path: what it means. -/
def components (p : Path) : List Component :=
  componentsOfPieces p.pieces

/-- Two paths that name the same file. -/
def same (p q : Path) : Bool :=
  p.components == q.components

/-- Whether a path starts at the root. -/
def isAbsolute (p : Path) : Bool :=
  p.text.toList.head? == some '/'

/-! ## Building paths -/

/-- The path `q` seen from the directory `p`: `q` itself if it is absolute,
    otherwise both texts with a slash between them where one is needed. -/
def join (p q : Path) : Path :=
  if q.isAbsolute then q
  else if p.text.isEmpty || p.text.toList.getLast? == some '/' then ⟨p.text ++ q.text⟩
  else ⟨p.text ++ "/" ++ q.text⟩

/-- The path that a list of components spells. -/
def ofComponents : List Component → Path
  | .root :: rest => ⟨"/" ++ "/".intercalate (rest.map (·.text))⟩
  | cs => ⟨"/".intercalate (cs.map (·.text))⟩

/-! ## Taking paths apart -/

/-- Whether a piece of a path stands for a component; `.` does only as the
    first piece. -/
def countsAt (index : Nat) (piece : List Char) : Bool :=
  !piece.isEmpty && (piece != ['.'] || index == 0)

/-- The pieces without those at the end that stand for no component. -/
def dropTrailing (pieces : List (List Char)) : List (List Char) :=
  ((pieces.zipIdx.reverse.dropWhile fun (piece, i) => !countsAt i piece).map (·.1)).reverse

/-- The directory of a path: the path without its last component, or `none`
    when there is nothing to drop. -/
def parent (p : Path) : Option Path :=
  match dropTrailing p.pieces with
  | [] => none
  | kept =>
    match dropTrailing kept.dropLast with
    | [] => some ⟨if p.isAbsolute then "/" else ""⟩
    | rest => some ⟨String.ofList (Text.joinList '/' rest)⟩

/-- The name at the end of a path; a path that ends in `..` has none. -/
def fileName (p : Path) : Option String :=
  match p.components.getLast? with
  | some (.name s) => some s
  | _ => none

/-- A file name cut into stem and extension.  A dot in front of the whole name
    starts no extension. -/
def splitExtension (name : String) : String × Option String :=
  match Text.cutLast '.' name with
  | some (stem, ext) => if stem.isEmpty then (name, none) else (stem, some ext)
  | none => (name, none)

/-- The extension of the file that a path names. -/
def extension (p : Path) : Option String :=
  p.fileName.bind fun name => (splitExtension name).2

/-- Whether the components of `dir` are the first components of `p`. -/
def startsWith (p dir : Path) : Bool :=
  dir.components.isPrefixOf p.components

/-- The components of `p` below `dir`, if `p` lies there. -/
def below? (p dir : Path) : Option (List Component) :=
  dir.components.isPrefixOf? p.components

theorem same_iff (p q : Path) : p.same q = true ↔ p.components = q.components := by
  simp [same]

theorem startsWith_iff (p dir : Path) :
    p.startsWith dir = true ↔ dir.components <+: p.components := by
  simp [startsWith]

end Path

end ElmAssist
