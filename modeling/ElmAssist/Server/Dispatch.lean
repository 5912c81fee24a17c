/-
  Messages.

  `Server.handle` takes one message of the editor and gives the reply, if there is
  one, and the notices sent beside it.  A session goes through `Phase`s: nothing
  but the first request is answered before it, nothing is answered after the
  request to shut down, and nothing at all is accepted after the last message.

  A request with an unknown method or bad parameters, or with the method of a
  notification, is refused with the code of the protocol; a notification of that kind
  is dropped.
-/
import ElmAssist.Server.Backend
import ElmAssist.Server.Shape.Capabilities
import ElmAssist.Server.Shape.Declined

namespace ElmAssist.Server

/-! ## Messages and replies -/

/-- A message of the editor: a request if it has an identifier, and otherwise a
    notification. -/
structure Message where
  id : Option Json := none
  method : String
  params : Option Json := none
  deriving Inhabited

/-- Why a request is refused. -/
inductive Refusal where
  /-- The session has not begun. -/
  | notInitialized
  /-- The request does not fit the phase of the session. -/
  | invalidRequest
  /-- The method is not known or not offered. -/
  | methodNotFound
  /-- The parameters do not have the right shape. -/
  | invalidParams
  deriving DecidableEq, Repr

/-- The code of a refusal in the protocol. -/
def Refusal.code : Refusal → Int
  | notInitialized => -32002
  | invalidRequest => -32600
  | methodNotFound => -32601
  | invalidParams => -32602

/-- The reply to a message. -/
inductive Reply where
  /-- No reply. -/
  | none
  /-- A result. -/
  | result (value : Json)
  /-- A refusal. -/
  | refused (cause : Refusal)
  /-- The session is over. -/
  | exited
  deriving Inhabited

/-- How far a session has come. -/
inductive Phase where
  /-- The first request is awaited. -/
  | uninitialized
  /-- Requests are answered. -/
  | running
  /-- The editor has asked to shut down. -/
  | shutDown
  /-- The session is over. -/
  | exited
  deriving DecidableEq, Repr

end Server

/-- A server in a session. -/
structure Server where
  phase : Server.Phase := .uninitialized
  backend : Server.Backend := {}

namespace Server

/-- The name of the server. -/
def serverName : String := "elm-completion-server"

/-- The version of the server. -/
def serverVersion : String := "0.1.0"

/-- The answer to the first request: what the server offers. -/
def capabilities : Json :=
  .object
    [("capabilities", .object
      [("textDocumentSync", .object
        [("openClose", .bool true), ("change", .ofNat 1), ("save", .bool true)]),
       ("completionProvider", .object
        [("resolveProvider", .bool true), ("triggerCharacters", .array [.string "."])])]),
     ("serverInfo", .object [("name", .string serverName), ("version", .string serverVersion)])]

/-- A notice as a message to the editor. -/
def Notice.toMessage (n : Notice) : String × Json :=
  ("window/logMessage", .object [("type", .ofNat 3), ("message", .string n.text)])

/-! ## Reading parameters -/

/-- The URI at a key. -/
def uriAt? (key : String) (j : Json) : Option Uri :=
  (j.get? key).bind fun u => u.string?.bind Uri.parse?

/-- The URI of the document that parameters are about. -/
def documentAt? (j : Json) : Option Uri :=
  (j.get? "textDocument").bind (uriAt? "uri")

/-- The items at a key. -/
def itemsAt (key : String) (j : Json) : List Json :=
  ((j.get? key).bind (·.array?)).getD []

/-- The text at a key. -/
def textAt? (key : String) (j : Json) : Option String :=
  (j.get? key).bind (·.string?)

/-- The position that parameters are about. -/
def positionAt? (j : Json) : Option Completion.Position := do
  let position ← j.get? "position"
  return ⟨← (← position.get? "line").nat?, ← (← position.get? "character").nat?⟩

/-! ## Methods -/

/-- The notifications that change the state of the server. -/
inductive Notification where
  /-- A document has been opened. -/
  | opened (uri : Uri) (text : String)
  /-- A document has been changed. -/
  | changed (uri : Uri) (texts : List String)
  /-- A document has been saved. -/
  | saved (uri : Uri)
  /-- A document has been closed. -/
  | closed (uri : Uri)
  /-- Files have changed on disk. -/
  | filesChanged (uris : List Uri)

/-- Reads a notification. -/
def Notification.ofMessage? (method : String) (params : Option Json) : Option Notification := do
  let params ← params
  match method with
  | "textDocument/didOpen" =>
    let p ← Shape.openParams.read? params
    return .opened (← documentAt? p) (← (p.get? "textDocument").bind (textAt? "text"))
  | "textDocument/didChange" =>
    let p ← Shape.changeParams.read? params
    return .changed (← documentAt? p) ((itemsAt "contentChanges" p).filterMap (textAt? "text"))
  | "textDocument/didSave" =>
    return .saved (← documentAt? (← Shape.saveParams.read? params))
  | "textDocument/didClose" =>
    return .closed (← documentAt? (← Shape.closeParams.read? params))
  | "workspace/didChangeWatchedFiles" =>
    let p ← Shape.watchedParams.read? params
    return .filesChanged ((itemsAt "changes" p).filterMap (uriAt? "uri"))
  | _ => none

/-- The effect of a notification. -/
def Notification.apply (disk : Disk) (b : Backend) : Notification → Backend × List Notice
  | opened uri text => (b.didOpen uri text, [])
  | changed uri texts => (b.didChange uri texts, [])
  | saved uri => (b.didSave uri, [])
  | closed uri => (b.didClose uri, [])
  | filesChanged uris => b.watchedFilesChanged disk uris

/-- The requests that are answered while the session is running. -/
inductive Request where
  /-- Completions at a position. -/
  | completion (uri : Uri) (pos : Completion.Position)
  /-- The documentation of an item. -/
  | resolve (item : Item)

/-- The methods of the requests that are answered. -/
def requestMethods : List String := ["textDocument/completion", "completionItem/resolve"]

/-- Reads a request with one of the methods above. -/
def Request.ofMessage? (method : String) (params : Option Json) : Option Request := do
  let params ← params
  if method = "textDocument/completion" then
    let p ← Shape.completionParams.read? params
    return .completion (← documentAt? p) (← positionAt? p)
  else return .resolve (← Item.ofJson? params)

/-- The answer to a request. -/
def Request.answer (disk : Disk) (b : Backend) : Request → Json × Backend
  | completion uri pos =>
    let (items, b) := b.completion disk uri pos
    (match items with
      | some items => .array (items.map (·.toJson))
      | none => .null, b)
  | resolve item =>
    let (item, b) := b.resolve disk item
    (item.toJson, b)

/-- The notifications of the protocol.  They are never answered. -/
def notificationMethods : List String :=
  ["initialized", "textDocument/didOpen", "textDocument/didChange", "textDocument/didSave",
   "textDocument/didClose", "textDocument/willSave", "workspace/didChangeWatchedFiles",
   "workspace/didChangeConfiguration", "workspace/didChangeWorkspaceFolders",
   "workspace/didCreateFiles", "workspace/didRenameFiles", "workspace/didDeleteFiles"]

/-! ## Sessions -/

/-- The refusal of a request that does not fit the phase of the session. -/
def Phase.refusal : Phase → Refusal
  | .uninitialized => .notInitialized
  | _ => .invalidRequest

/-- A refusal, which only requests get. -/
def refuse (m : Message) (cause : Refusal) : Reply :=
  if m.id.isSome then .refused cause else .none

/-- Begins a session. -/
def begin? (b : Backend) (params : Option Json) : Option Backend := do
  let p ← Shape.sessionParams.read? (← params)
  let folders := (itemsAt "workspaceFolders" p).filterMap (uriAt? "uri")
  return b.setRoots (Backend.rootsOf folders (uriAt? "rootUri" p))

/-- Handles a message while the session is running. -/
def handleRunning (disk : Disk) (s : Server) (m : Message) : Reply × List Notice × Server :=
  if notificationMethods.contains m.method then
    match m.id, Notification.ofMessage? m.method m.params with
    | some _, _ => (.refused .invalidRequest, [], s)
    | none, some n =>
      let (backend, notices) := n.apply disk s.backend
      (.none, notices, { s with backend })
    | none, none => (.none, [], s)
  else if m.id.isNone then (.none, [], s)
  else if requestMethods.contains m.method then
    match Request.ofMessage? m.method m.params with
    | some request =>
      let (value, backend) := request.answer disk s.backend
      (.result value, [], { s with backend })
    | none => (.refused .invalidParams, [], s)
  else
    match Shape.declined.lookup m.method with
    | some shape =>
      (.refused (if m.params.any shape.fits then .methodNotFound else .invalidParams), [], s)
    | none => (.none, [], s)

/-- Whether a method belongs to the protocol and needs a running session. -/
def isRunningMethod (method : String) : Bool :=
  notificationMethods.contains method || requestMethods.contains method ||
    (Shape.declined.lookup method).isSome

/-- Handles a message: the reply, the notices sent beside it, and the server
    afterwards. -/
def handle (disk : Disk) (s : Server) (m : Message) : Reply × List Notice × Server :=
  if s.phase = .exited then (.exited, [], s)
  else if m.method = "exit" then (.none, [], { s with phase := .exited })
  else if m.method = "initialize" then
    if s.phase = .uninitialized then
      match m.id, begin? s.backend m.params with
      | some _, some backend => (.result capabilities, [], { phase := .running, backend })
      | some _, none => (.refused .invalidParams, [], s)
      | none, _ => (.none, [], s)
    else (refuse m .invalidRequest, [], s)
  else if m.method = "shutdown" then
    if s.phase = .running then
      (match m.id, m.params with
        | none, _ => .none
        | some _, none => .result .null
        | some _, some _ => .refused .invalidParams, [], { s with phase := .shutDown })
    else (refuse m s.phase.refusal, [], s)
  else if isRunningMethod m.method then
    if s.phase = .running then s.handleRunning disk m
    else (refuse m s.phase.refusal, [], s)
  else if m.method = "$/cancelRequest" then (refuse m .invalidRequest, [], s)
  else if Text.begins m.method "$/" then (.none, [], s)
  else (refuse m .methodNotFound, [], s)

/-- A manifest below a watched root has changed on disk. -/
def manifestChanged (disk : Disk) (s : Server) : List Notice × Server :=
  let (backend, notices) := s.backend.reload disk
  (notices, { s with backend })

end Server

end ElmAssist
