/-
  Disks.

  A `Disk` is a tree of directories, files and symbolic links.  Paths are looked
  up the way a file system does: component by component from the root or, for a
  relative path, from the working directory, following links, with `..` leading to
  the directory above the place reached so far.
-/
import ElmAssist.Path.Bytes

namespace ElmAssist

/-! ## Trees -/

/-- A node of a directory tree. -/
inductive Entry where
  /-- A regular file. -/
  | file (contents : ByteArray)
  /-- A directory; its entries are in increasing order of their names. -/
  | directory (entries : List (String × Entry))
  /-- A symbolic link. -/
  | link (target : Path)
  deriving Inhabited

namespace Entry

/-- Whether the entry is a directory. -/
def isDirectory : Entry → Bool
  | directory _ => true
  | _ => false

/-- The entry with a name among those of a directory. -/
def find? (name : String) (entries : List (String × Entry)) : Option Entry :=
  (entries.find? (·.1 == name)).map (·.2)

/-- The entries of a directory with one added or replaced. -/
def set (name : String) (entry : Entry) : List (String × Entry) → List (String × Entry)
  | [] => [(name, entry)]
  | (n, e) :: rest =>
    if name < n then (name, entry) :: (n, e) :: rest
    else if name = n then (name, entry) :: rest
    else (n, e) :: set name entry rest

/-- The entry at the end of a chain of names. -/
def get? (e : Entry) : List String → Option Entry
  | [] => some e
  | name :: rest =>
    match e with
    | directory entries => (find? name entries).bind (·.get? rest)
    | _ => none

/-- The tree with an entry put at the end of a chain of names; directories on the
    way are made as needed. -/
def put (e : Entry) (place : List String) (new : Entry) : Entry :=
  match place with
  | [] => new
  | name :: rest =>
    let entries := match e with
      | directory entries => entries
      | _ => []
    directory (set name (((find? name entries).getD (directory [])).put rest new) entries)

/-- The tree without what is at the end of a chain of names. -/
def erase : List String → Entry → Entry
  | [], e => e
  | [name], directory entries => directory (entries.filter (·.1 != name))
  | name :: rest, directory entries =>
    match find? name entries with
    | some e => directory (set name (erase rest e) entries)
    | none => directory entries
  | _, e => e

end Entry

/-! ## Looking up paths -/

/-- Why a file could not be read. -/
inductive ReadError where
  /-- There is no such file. -/
  | notFound (path : Path)
  /-- The path names a directory. -/
  | isDirectory (path : Path)
  /-- The path goes through a file. -/
  | notDirectory (path : Path)
  /-- The path goes through too many links. -/
  | tooManyLinks (path : Path)
  /-- The path, or a name in it, is too long. -/
  | nameTooLong (path : Path)
  /-- The path holds a character that no name can have. -/
  | unnameable (path : Path)
  deriving DecidableEq, Repr

/-- The wording of an error. -/
def ReadError.message : ReadError → String
  | notFound p => "file not found: " ++ p.shown
  | isDirectory p => "failed to read " ++ p.shown ++ ": Is a directory (os error 21)"
  | notDirectory p => "failed to read " ++ p.shown ++ ": Not a directory (os error 20)"
  | tooManyLinks p =>
    "failed to read " ++ p.shown ++ ": Too many levels of symbolic links (os error 40)"
  | nameTooLong p => "failed to read " ++ p.shown ++ ": File name too long (os error 36)"
  | unnameable p => "failed to read " ++ p.shown ++ ": file name contained an unexpected NUL byte"

/-- A step of a look-up. -/
inductive Step where
  /-- Into the entry with a name. -/
  | down (name : String)
  /-- To the directory above. -/
  | up
  /-- To the place itself, which has to be a directory. -/
  | stay
  deriving DecidableEq, Repr

/-- The steps of a path: a `.` and a slash at the end ask for a directory. -/
def Path.steps (p : Path) : List Step :=
  let step := fun (piece : List Char) =>
    if piece = ['.'] then some Step.stay
    else if piece = ['.', '.'] then some Step.up
    else if piece = [] then none
    else some (.down (String.ofList piece))
  p.pieces.filterMap step ++ (if p.text.toList.getLast? = some '/' then [Step.stay] else [])

/-- A directory tree, and the directory in which the program runs. -/
structure Disk where
  root : Entry := .directory []
  /-- The names on the way from the root to the directory in which relative paths start. -/
  workingDir : List String := []
  deriving Inhabited

namespace Disk

/-- Where a look-up ends: at an entry, or in a directory at a name that is free. -/
inductive Found where
  /-- The entry at a place. -/
  | entry (place : List String) (entry : Entry)
  /-- A free name in an existing directory. -/
  | free (place : List String)
  /-- Nothing, because something on the way is missing. -/
  | missing
  /-- Nothing, because something on the way is no directory. -/
  | blocked
  /-- Nothing, because of too many links. -/
  | looping
  /-- Nothing, because the path or a name on the way is too long. -/
  | tooLong
  /-- Nothing, because the path holds a NUL. -/
  | unnameable

/-- The number of links that a look-up follows. -/
def maxLinks : Nat := 40

/-- The greatest number of bytes of a name. -/
def maxName : Nat := 255

/-- The least number of bytes that is too many for a path. -/
def pathLimit : Nat := 4096

/-- Follows steps from a place, given as its chain of names, last one first.  A
    link at the very end is followed only if `follow` is set. -/
def walkFrom (d : Disk) (follow : Bool) (links : Nat) (place : List String) (steps : List Step) :
    Found :=
  match d.root.get? place.reverse with
  | none => .missing
  | some here =>
    match steps with
    | [] => .entry place.reverse here
    | .stay :: rest => if here.isDirectory then walkFrom d follow links place rest else .blocked
    | .up :: rest => if here.isDirectory then walkFrom d follow links place.tail rest else .blocked
    | .down name :: rest =>
      match here with
      | .directory entries =>
        match Entry.find? name entries with
        | none =>
          if maxName < (Path.bytesOf name).length then .tooLong
          else if rest.isEmpty then .free (name :: place).reverse
          else .missing
        | some (.link target) =>
          if rest.isEmpty && !follow then .entry (name :: place).reverse (.link target)
          else
            match links with
            | 0 => .looping
            | links + 1 =>
              walkFrom d follow links (if target.isAbsolute then [] else place)
                (target.steps ++ rest)
        | some _ => walkFrom d follow links (name :: place) rest
      | _ => .blocked
termination_by (links, steps.length)

/-- Looks up a path: from the root, or from the working directory. -/
def lookup (d : Disk) (follow : Bool) (p : Path) : Found :=
  if p.text.toList.any (·.toNat == 0) then .unnameable
  else if pathLimit ≤ p.size then .tooLong
  else if p.isAbsolute then walkFrom d follow maxLinks [] p.steps
  else if p.text.isEmpty then .missing
  else walkFrom d follow maxLinks d.workingDir.reverse p.steps

/-- The contents of a file. -/
def contents (d : Disk) (p : Path) : Except ReadError ByteArray :=
  match d.lookup true p with
  | .entry _ (.file contents) => .ok contents
  | .entry _ _ => .error (.isDirectory p)
  | .free _ | .missing => .error (.notFound p)
  | .blocked => .error (.notDirectory p)
  | .looping => .error (.tooManyLinks p)
  | .tooLong => .error (.nameTooLong p)
  | .unnameable => .error (.unnameable p)

/-- The names of the directories directly below a directory, in increasing order;
    none if it cannot be listed.  Names that are no text are left out. -/
def listDirs (d : Disk) (p : Path) : List String :=
  match d.lookup true p with
  | .entry _ (.directory entries) =>
    ((entries.filter (·.2.isDirectory)).filterMap fun x => Path.textOf? x.1).mergeSort
  | _ => []

/-! ## Changes -/

/-- Makes the directory at the end of some steps from a place, unless there is one; `none`
    if that is not possible. -/
def makeDirAt? (d : Disk) (place : List String) (steps : List Step) : Option Disk :=
  match d.walkFrom false maxLinks place steps with
  | .entry _ (.directory _) => some d
  | .free place => some { d with root := d.root.put place (.directory []) }
  | .entry _ (.link _) =>
    match d.walkFrom true maxLinks place steps with
    | .entry _ (.directory _) => some d
    | _ => none
  | _ => none

/-- Makes the directories that are missing on the way over some steps from a place, behind
    the steps that have been made, last one first. -/
def makeDirsFrom (d : Disk) (place : List String) (made : List Step) : List Step → Disk
  | [] => d
  | step :: rest =>
    match d.makeDirAt? place (step :: made).reverse with
    | some d => d.makeDirsFrom place (step :: made) rest
    | none => d

/-- Makes a directory and those above it, unless they are there. -/
def makeDir (d : Disk) (p : Path) : Disk :=
  d.makeDirsFrom (if p.isAbsolute then [] else d.workingDir.reverse) [] p.steps

/-- Makes the directories above a path. -/
def makeParents (d : Disk) (p : Path) : Disk :=
  (p.parent.map d.makeDir).getD d

/-- Writes a file, replacing its contents; directories on the way are made as
    needed. -/
def write (d : Disk) (p : Path) (contents : ByteArray) : Disk :=
  let d := d.makeParents p
  match d.lookup true p with
  | .entry place (.file _) | .free place => { d with root := d.root.put place (.file contents) }
  | _ => d

/-- Removes a file, link or directory with all that is below it. -/
def remove (d : Disk) (p : Path) : Disk :=
  match d.lookup false p with
  | .entry place _ => { d with root := d.root.erase place }
  | _ => d

/-- Makes a symbolic link, unless there is something; directories on the way are
    made as needed. -/
def makeLink (d : Disk) (p target : Path) : Disk :=
  let d := d.makeParents p
  match d.lookup false p with
  | .free place => { d with root := d.root.put place (.link target) }
  | _ => d

end Disk

end ElmAssist
