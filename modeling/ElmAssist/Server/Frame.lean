/-
  Frames.

  Messages travel as JSON texts, each behind a header that gives the number of its
  bytes.
-/
import ElmAssist.Json.Printer
import ElmAssist.Server.Dispatch

namespace ElmAssist.Server

/-! ## Headers -/

/-- The name of the header field that gives the length. -/
def lengthField : String := "content-length:"

/-- The length that a header line gives, if it is the one for the length. -/
def contentLength? (line : String) : Option Nat :=
  if Text.begins line.toLower lengthField then
    let value := (line.toList.drop lengthField.length).filter (· != ' ')
    let digits := value.takeWhile Char.isDigit
    if digits.isEmpty then none
    else some (digits.foldl (fun n c => 10 * n + (c.toNat - '0'.toNat)) 0)
  else none

/-- A value in its frame. -/
def frame (j : Json) : String :=
  let body := j.render
  "Content-Length: " ++ toString body.utf8ByteSize ++ "\r\n\r\n" ++ body

/-! ## Messages -/

/-- Whether a value can identify a request. -/
def isIdentifier : Json → Bool
  | .null => true
  | .string _ => true
  | j => (intWithin? (-9223372036854775808) 9223372036854775807 j).isSome

/-- Whether a value is a response of the editor: it names a request, and gives a
    result or an error. -/
def isResponse (j : Json) : Bool :=
  (j.get? "id").any isIdentifier &&
    ((j.get? "result").isSome || (j.get? "error").any fun e =>
      (e.get? "code").any (fun c => c.int?.isSome) && (e.get? "message").any (·.string?.isSome))

/-- Reads a message.  Without a method it has the empty one. -/
def Message.ofJson? (j : Json) : Option Message := do
  let _ ← j.object?
  let method ← match j.get? "method" with
    | some method => method.string?
    | none => some ""
  guard ((j.get? "id").all isIdentifier)
  return { id := j.get? "id", method, params := j.get? "params" }

/-- The wording of a refusal. -/
def Refusal.message : Refusal → String
  | notInitialized => "Server not initialized"
  | invalidRequest => "Invalid request"
  | methodNotFound => "Method not found"
  | invalidParams => "Invalid params"

/-- A response to a request. -/
def response (id : Json) (key : String) (value : Json) : Json :=
  .object [("jsonrpc", .string "2.0"), ("id", id), (key, value)]

/-- The response that tells of an error. -/
def errorResponse (id : Json) (code : Int) (message : String) : Json :=
  response id "error" (.object [("code", .ofInt code), ("message", .string message)])

/-- The response that refuses a request. -/
def refusal (id : Json) (cause : Refusal) : Json :=
  errorResponse id cause.code cause.message

/-- The response to a text that is not JSON. -/
def unreadable : Json :=
  errorResponse .null (-32700) "Parse error"

/-- The response to a message, if it gets one. -/
def response? (m : Message) (reply : Reply) : Option Json :=
  match m.id, reply with
  | some id, .result value => some (response id "result" value)
  | some id, .refused cause => some (refusal id cause)
  | _, _ => none

/-- A notice as a notification to the editor. -/
def notification (n : Notice) : Json :=
  let (method, params) := n.toMessage
  .object [("jsonrpc", .string "2.0"), ("method", .string method), ("params", params)]

/-- Takes a value that the editor sends: the response, the notices sent beside it,
    and the server afterwards.  Responses of the editor are dropped, and what is no
    message at all is refused. -/
def receive (disk : Disk) (s : Server) (j : Json) : Option Json × List Notice × Server :=
  if isResponse j then (none, [], s)
  else
    match Message.ofJson? j with
    | some m =>
      let (reply, notices, s) := s.handle disk m
      (response? m reply, notices, s)
    | none => (some (refusal .null .invalidRequest), [], s)

end ElmAssist.Server
