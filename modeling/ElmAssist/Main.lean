/-
  The program: reads messages from standard input and writes replies to standard
  output.

  The disk is read into a `Disk` before each message is handled, as far as the
  roots, the source directories and the packages of the projects reach.  A change
  to a manifest below a root is noticed at the same time.
-/
import ElmAssist.CommandLine
import ElmAssist.Server.Frame
import ElmAssist.SessionLog

namespace ElmAssist.Main

/-! ## Reading the disk -/

/-- Whether the contents of a file matter. -/
def isRead (p : Path) : Bool :=
  isManifest p || p.extension == some sourceExtension

/-- An entry of a directory, as the system names it. -/
def systemEntry (dir name : String) : IO.FS.DirEntry :=
  { root := dir, fileName := name }

/-- Reads the entry with a name in a directory, `depth` levels down. -/
partial def readEntry (depth : Nat) (dir name : String) : IO (Option Entry) := do
  let here := (systemEntry dir name).path
  try
    let info ← here.symlinkMetadata
    match info.type with
    | .dir =>
      if depth = 0 then return some (.directory [])
      let mut entries : List (String × Entry) := []
      for e in ← here.readDir do
        if let some entry ← readEntry (depth - 1) here.toString e.fileName then
          entries := Entry.set (Path.spell e.fileName) entry entries
      return some (.directory entries)
    | .symlink => return some (.link (.ofText (← IO.FS.realPath here).toString))
    | .file =>
      if isRead (.ofText name) then return some (.file (← IO.FS.readBinFile here))
      else return some (.file .empty)
    | .other => return none
  catch _ => return none

/-- The names in a path. -/
def names (p : Path) : List String :=
  p.components.filterMap fun
    | .name n => some n
    | _ => none

/-- Adds a file or directory to a disk. -/
def addPath (depth : Nat) (disk : Disk) (p : Path) : IO Disk := do
  match p.parent, p.fileName with
  | some dir, some name =>
    let start := if p.isAbsolute then [] else disk.workingDir
    match ← readEntry depth dir.shown (Path.shown ⟨name⟩) with
    | some entry => return { disk with root := disk.root.put (start ++ names p) entry }
    | none => return disk
  | _, _ => return disk

/-- The deepest directory that is read. -/
def maxDepth : Nat := 64

/-- Reads the disk as far as the server needs it. -/
def readDisk (resolver : Resolver) : IO Disk := do
  let mut disk : Disk := { workingDir := names (.ofText (← IO.currentDir).toString) }
  if let some root := resolver.packages.root? then
    disk ← addPath 1 disk root
  for root in resolver.roots do
    disk ← addPath maxDepth disk root
  for project in (resolver.loaded disk).known ++ resolver.load disk do
    for dir in project.sourceDirectories ++ project.dependencies.map (·.sourceDir) do
      disk ← addPath maxDepth disk dir
  return disk

/-- The manifests below the roots with their contents. -/
def manifests (disk : Disk) (resolver : Resolver) : List (Path × Option (List UInt8)) :=
  (disk.glob manifestPattern resolver.roots).map fun p =>
    (p, (disk.contents p).toOption.map (·.toList))

/-! ## Messages -/

/-- Reads header lines up to the empty one and returns the length that they give. -/
partial def readHeader (input : IO.FS.Stream) (length : Option Nat) : IO (Option Nat) := do
  let line ← input.getLine
  if line.isEmpty then return none
  let line := String.ofList (line.toList.filter fun c => c != '\r' && c != '\n')
  if line.isEmpty then return some (length.getD 0)
  readHeader input ((Server.contentLength? line).or length)

/-- Reads a number of bytes. -/
partial def readBytes (input : IO.FS.Stream) (n : Nat) (acc : ByteArray) : IO ByteArray := do
  if acc.size ≥ n then return acc
  let chunk ← input.read (n - acc.size).toUSize
  if chunk.isEmpty then return acc
  readBytes input n (acc ++ chunk)

/-- Writes a value in its frame. -/
def send (output : IO.FS.Stream) (j : Json) : IO Unit := do
  output.putStr (Server.frame j)
  output.flush

/-- Handles messages until the input or the session ends. -/
partial def serve (input output : IO.FS.Stream) (server : Server)
    (seen : List (Path × Option (List UInt8))) : IO Unit := do
  let some length ← readHeader input none | return
  let bytes ← readBytes input length .empty
  let some message := Json.parse? bytes.toList |
    send output Server.unreadable
    serve input output server seen
  let resolver := server.backend.workspace.resolver
  let disk ← readDisk resolver
  let found := manifests disk resolver
  let changed := server.phase == .running && found != seen
  let (earlier, server) := if changed then server.manifestChanged disk else ([], server)
  let (response, notices, server) := server.receive disk message
  for notice in earlier ++ notices do
    send output (Server.notification notice)
  if let some response := response then
    send output response
  if server.phase == .exited then return
  let resolver := server.backend.workspace.resolver
  serve input output server (manifests (← readDisk resolver) resolver)

/-! ## Session logs -/

/-- The seconds since the epoch at which a file was last changed. -/
def modified (dir name : String) : IO Int := do
  return (← (systemEntry dir name).path.metadata).modified.sec

/-- Starts the log of a session: old logs are removed and a new one is made. -/
def startLog (dir : String) : IO Unit := do
  IO.FS.createDirAll dir
  let fresh := "session-" ++ toString (← IO.monoNanosNow) ++ ".log"
  IO.FS.writeFile (systemEntry dir fresh).path CommandLine.versionText
  let now ← modified dir fresh
  for e in ← (systemEntry dir "").path.readDir do
    let info ← e.path.metadata
    let entry : SessionLog.LogEntry :=
      { name := e.fileName, isFile := info.type == .file, age := (now - info.modified.sec) * 1000 }
    if SessionLog.isExpired entry then IO.FS.removeFile e.path

/-- The directory of the session logs. -/
def logDirectory : IO (Option String) := do
  let cache ← IO.getEnv "XDG_CACHE_HOME"
  let home ← IO.getEnv "HOME"
  return ((cache.filter (!·.isEmpty)).or (home.map (· ++ "/.cache"))).map (· ++ "/elm-completion-server")

/-- Runs the server with its options. -/
def run (options : CommandLine.Options) : IO UInt32 := do
  if !options.noFileLogging then
    match ← logDirectory with
    | some dir => startLog dir
    | none => throw (IO.userError "Unable to determine user cache directory")
  let home := (← IO.getEnv "HOME").filter (!·.isEmpty)
  let packages := CommandLine.packages options (← IO.getEnv "ELM_HOME") (home.map .ofText)
  serve (← IO.getStdin) (← IO.getStdout) { backend := .start packages } []
  return 0

end ElmAssist.Main

/-- The entry point. -/
def main (args : List String) : IO UInt32 := do
  let request := ElmAssist.CommandLine.parse args
  match request with
  | .print text =>
    IO.print text
    return request.exitCode.toUInt32
  | .usageError =>
    IO.eprintln "error: invalid arguments; try --help"
    return request.exitCode.toUInt32
  | .serve options => ElmAssist.Main.run options
