/-
  Shapes of the protocol: what the requests and notifications that the server takes
  part in look like, and the records that they share.
-/
import ElmAssist.Server.Shape.Basic

namespace ElmAssist.Server.Shape

open FieldShape

/-! ## Documents and positions -/

/-- A document, by its URI. -/
def document : Shape := .record [required "uri" .uri]

/-- A position in a document. -/
def position : Shape := .record [required "line" .nat, required "character" .nat]

/-- A range of positions. -/
def range : Shape := .record [required "start" position, required "end" position]

/-- A range in a document. -/
def location : Shape := .record [required "uri" .uri, required "range" range]

/-- The document that parameters are about. -/
def aboutDocument : List FieldShape := [required "textDocument" document]

/-- The position in a document that parameters are about. -/
def aboutPosition : List FieldShape := aboutDocument ++ [required "position" position]

/-- A number or a text that identifies something. -/
def token : Shape := .either .int .text

/-- A token for reports on the progress of a request. -/
def progress : List FieldShape := [optional "workDoneToken" token]

/-- Tokens for reports on the progress of a request and for parts of its result. -/
def progressAndParts : List FieldShape := progress ++ [optional "partialResultToken" token]

/-! ## Texts -/

/-- A text with its format. -/
def markup : Shape := .record
  [required "kind" (.oneOf ["plaintext", "markdown"]), required "value" .text]

/-- A text, which may have a format. -/
def documentation : Shape := .either .text markup

/-- An edit of a text. -/
def textEdit : Shape := .record [required "range" range, required "newText" .text]

/-- A command that the editor can run. -/
def command : Shape := .record
  [required "title" .text, required "command" .text, optional "arguments" (.list .any)]

/-! ## Notifications -/

/-- The parameters of the notice that a document has been opened. -/
def openParams : Shape := .record
  [required "textDocument" (.record
    [required "uri" .uri, required "languageId" .text, required "version" .int,
     required "text" .text])]

/-- The parameters of the notice that a document has been changed. -/
def changeParams : Shape := .record
  [required "textDocument" (.record [required "uri" .uri, required "version" .int]),
   required "contentChanges" (.list (.record
    [optional "range" range, optional "rangeLength" .nat, required "text" .text]))]

/-- The parameters of the notice that a document has been saved. -/
def saveParams : Shape := .record (aboutDocument ++ [optional "text" .text])

/-- The parameters of the notice that a document has been closed. -/
def closeParams : Shape := .record aboutDocument

/-- The parameters of the notice that files have changed. -/
def watchedParams : Shape := .record
  [required "changes" (.list (.record [required "uri" .uri, required "type" .int]))]

/-! ## Completion -/

/-- The parameters of a completion request. -/
def completionParams : Shape := .keyed (aboutPosition ++ progressAndParts ++
  [optional "context" (.record [required "triggerKind" .int, optional "triggerCharacter" .text])])

/-- A completion item. -/
def item : Shape := .record
  [required "label" .text,
   optional "labelDetails" (.record [optional "detail" .text, optional "description" .text]),
   optional "kind" .int, optional "detail" .text, optional "documentation" documentation,
   optional "deprecated" .truth, optional "preselect" .truth, optional "sortText" .text,
   optional "filterText" .text, optional "insertText" .text, optional "insertTextFormat" .int,
   optional "insertTextMode" .int,
   optional "textEdit" (.either textEdit (.record
    [required "newText" .text, required "insert" range, required "replace" range])),
   optional "additionalTextEdits" (.list textEdit), optional "command" command,
   optional "commitCharacters" (.list .text), optional "data" .any, optional "tags" (.list .int)]

/-- The note on a completion item that tells where it comes from. -/
def origin : Shape := .record [required "path" .text, required "module" .text]

end ElmAssist.Server.Shape
