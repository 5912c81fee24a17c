/-
  What the server knows and does.

  A `Backend` holds the texts of the open documents and the workspace.  Each
  operation answers one message of the editor: documents are opened, changed,
  saved and closed, files change on disk, completions are asked for and items are
  documented.  Saving and changes on disk drop modules from the cache; a change to
  a manifest loads all projects again.
-/
import ElmAssist.Elm.Parse
import ElmAssist.Server.Item

namespace ElmAssist.Server

open Completion

/-- A notice that is shown to the user. -/
structure Notice where
  text : String
  deriving DecidableEq, Repr

/-- What the server knows. -/
structure Backend where
  workspace : Workspace := {}
  /-- The texts of the open documents. -/
  documents : List (Uri × String) := []
  deriving DecidableEq, Repr

namespace Backend

/-- A server that has just been started. -/
def start (packages : PackageCache) : Backend :=
  { workspace := { resolver := { packages } } }

/-! ## Documents -/

/-- The text of an open document. -/
def text? (b : Backend) (uri : Uri) : Option String :=
  (b.documents.find? (·.1 == uri)).map (·.2)

/-- The open documents other than one. -/
def otherDocuments (b : Backend) (uri : Uri) : List (Uri × String) :=
  b.documents.filter (·.1 != uri)

/-- Sets the text of a document. -/
def setText (b : Backend) (uri : Uri) (text : String) : Backend :=
  { b with documents := (uri, text) :: b.otherDocuments uri }

/-- A document has been opened. -/
def didOpen (b : Backend) (uri : Uri) (text : String) : Backend :=
  b.setText uri text

/-- A document has been changed; each change holds the whole text, so the last one
    counts. -/
def didChange (b : Backend) (uri : Uri) (changes : List String) : Backend :=
  match changes.getLast? with
  | some text => b.setText uri text
  | none => b

/-- A document has been closed. -/
def didClose (b : Backend) (uri : Uri) : Backend :=
  { b with documents := b.otherDocuments uri }

/-! ## Files -/

/-- Drops the module of a file from the cache. -/
def invalidate (b : Backend) (file : Path) : Backend :=
  { b with workspace := { b.workspace with cache := b.workspace.cache.invalidate file } }

/-- A document has been saved. -/
def didSave (b : Backend) (uri : Uri) : Backend :=
  match uri.filePath? with
  | some file => b.invalidate file
  | none => b

/-- The notice about projects that have been loaded. -/
def reloadNotice (projects : List Project) : Notice :=
  ⟨"Reloaded " ++ toString projects.length ++ " Elm project(s): " ++
    ", ".intercalate (projects.map fun p => p.root.shown)⟩

/-- Loads all projects again and empties the cache. -/
def reload (disk : Disk) (b : Backend) : Backend × List Notice :=
  let resolver := b.workspace.resolver.refresh disk
  ({ b with workspace := { resolver, cache := b.workspace.cache.clear } },
    [reloadNotice resolver.known])

/-- Files have changed on disk: modules are dropped from the cache, and if one of
    the files is a manifest, all projects are loaded again, once. -/
def watchedFilesChanged (disk : Disk) (b : Backend) (uris : List Uri) : Backend × List Notice :=
  let files := uris.filterMap (·.filePath?)
  let b := (files.filter (!isManifest ·)).foldl invalidate b
  if files.any isManifest then b.reload disk else (b, [])

/-- The roots that the editor names: its folders, or else its root. -/
def rootsOf (folders : List Uri) (root : Option Uri) : List Path :=
  match folders.filterMap (·.filePath?) with
  | [] => (root.bind (·.filePath?)).toList
  | roots => roots

/-- Sets the roots of the workspace. -/
def setRoots (b : Backend) (roots : List Path) : Backend :=
  { b with workspace := { b.workspace with resolver := b.workspace.resolver.setRoots roots } }

/-! ## Requests -/

/-- The completions at a position of an open document; there is no answer for a
    document that is not open or names no file.  A file whose path is not text cannot
    be noted on the items. -/
def completion (disk : Disk) (b : Backend) (uri : Uri) (pos : Position) :
    Option (List Item) × Backend :=
  match uri.filePath?, b.text? uri with
  | some file, some text =>
    let (candidates, workspace) := complete Elm.parse disk b.workspace text file pos
    let items := candidates.map (Item.ofCandidate file)
    (some (if file.isText then items else items.map (·.withoutData)), { b with workspace })
  | _, _ => (none, b)

/-- An item with its documentation, as far as it can be found. -/
def resolve (disk : Disk) (b : Backend) (item : Item) : Item × Backend :=
  match item.origin? with
  | none => (item, b)
  | some origin =>
    let (doc, workspace) :=
      describe Elm.parse disk b.workspace origin.path origin.moduleName item.label
    ((doc.map fun doc => item.document doc origin.moduleName).getD item, { b with workspace })

end Backend

end ElmAssist.Server
