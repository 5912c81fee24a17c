/-
  Requests of the protocol that the server does not offer.

  Such a request is declined, but only if its parameters have the right shape;
  otherwise they are what it is refused for.
-/
import ElmAssist.Server.Shape.Params

namespace ElmAssist.Server.Shape

open FieldShape

/-! ## Parameters about a position or a document -/

/-- A request about a position. -/
def atPosition (fields : List FieldShape) : Shape := .keyed (aboutPosition ++ fields)

/-- A request about a document. -/
def ofDocument (fields : List FieldShape) : Shape := .keyed (aboutDocument ++ fields)

/-- A request about a range in a document. -/
def ofRange (fields : List FieldShape) : Shape := ofDocument (required "range" range :: fields)

/-! ## Records -/

/-- A symbol whose calls or relatives are asked for. -/
def hierarchyItem (tags : Shape) : Shape := .record
  [required "name" .text, required "kind" .int, optional "tags" tags, optional "detail" .text,
   required "uri" .uri, required "range" range, required "selectionRange" range,
   optional "data" .any]

/-- A request about a symbol. -/
def ofSymbol (tags : Shape) : Shape :=
  .keyed (required "item" (hierarchyItem tags) :: progressAndParts)

/-- What is known about the signatures of a function. -/
def signatures : Shape := .record
  [required "signatures" (.list (.record
    [required "label" .text, optional "documentation" documentation,
     optional "parameters" (.list (.record
      [required "label" (.either .text (.pair .nat)), optional "documentation" documentation])),
     optional "activeParameter" .nat])),
   optional "activeSignature" .nat, optional "activeParameter" .nat]

/-- What made the editor ask for help with a signature. -/
def signatureContext : Shape := .record
  [required "triggerKind" .int, optional "triggerCharacter" .text, required "isRetrigger" .truth,
   optional "activeSignatureHelp" signatures]

/-- A diagnostic. -/
def diagnostic : Shape := .record
  [required "range" range, optional "severity" .int, optional "code" token,
   optional "codeDescription" (.record [required "href" .uri]), optional "source" .text,
   required "message" .text,
   optional "relatedInformation" (.list (.record
    [required "location" location, required "message" .text])),
   optional "tags" (.list .int), optional "data" .any]

/-- For what actions are asked. -/
def actionContext : Shape := .record
  [required "diagnostics" (.list diagnostic), optional "only" (.list .text),
   optional "triggerKind" .int]

/-- How a text is laid out.  Other properties may be given, too. -/
def formatting : Shape := .extended
  ([required "tabSize" .nat, required "insertSpaces" .truth] ++
   switches ["trimTrailingWhitespace", "insertFinalNewline", "trimFinalNewlines"])
  (.either .truth (.either .int .text))

/-- An operation on a file. -/
def fileOperation : Shape := .tagged "kind"
  [("create", .record
    [required "uri" .uri,
     optional "options" (.record (switches ["overwrite", "ignoreIfExists"])),
     optional "annotationId" .text]),
   ("rename", .record
    [required "oldUri" .uri, required "newUri" .uri,
     optional "options" (.record (switches ["overwrite", "ignoreIfExists"])),
     optional "annotationId" .text]),
   ("delete", .record
    [required "uri" .uri,
     optional "options" (.record
      (switches ["recursive", "ignoreIfNotExists"] ++ [optional "annotationId" .text]))])]

/-- Edits of one document. -/
def documentEdit : Shape := .record
  [required "textDocument" (.record [required "uri" .uri, optional "version" .int]),
   required "edits" (.list textEdit)]

/-- Edits of several files. -/
def workspaceEdit : Shape := .record
  [optional "changes" (.dictionary .uri (.list textEdit)),
   optional "documentChanges" (.list (.either fileOperation documentEdit)),
   optional "changeAnnotations" (.dictionary .text (.record
    [required "label" .text, optional "needsConfirmation" .truth,
     optional "description" .text]))]

/-- An action on code. -/
def action : Shape := .record
  [required "title" .text, optional "kind" .text, optional "diagnostics" (.list diagnostic),
   optional "edit" workspaceEdit, optional "command" command, optional "isPreferred" .truth,
   optional "disabled" (.record [required "reason" .text]), optional "data" .any]

/-- A hint that is shown within a text. -/
def hint : Shape := .record
  [required "position" position,
   required "label" (.either .text (.list (.record
    [required "value" .text, optional "tooltip" documentation, optional "location" location,
     optional "command" command]))),
   optional "kind" .int, optional "textEdits" (.list textEdit),
   optional "tooltip" documentation, optional "paddingLeft" .truth,
   optional "paddingRight" .truth, optional "data" .any]

/-- A symbol of a workspace. -/
def symbol : Shape := .record
  [required "name" .text, required "kind" .int, optional "tags" (.list .int),
   optional "containerName" .text,
   required "location" (.either location (.record [required "uri" .uri])),
   optional "data" .any]

/-- A color. -/
def color : Shape := .record
  [required "red" .number, required "green" .number, required "blue" .number,
   required "alpha" .number]

/-- Files by the texts at some keys. -/
def files (keys : List String) : Shape := .record
  [required "files" (.list (.record (keys.map (required · .text))))]

/-! ## Requests -/

/-- The requests that are declined, with the shapes of their parameters. -/
def declined : List (String × Shape) :=
  [("textDocument/declaration", atPosition progressAndParts),
   ("textDocument/definition", atPosition progressAndParts),
   ("textDocument/typeDefinition", atPosition progressAndParts),
   ("textDocument/implementation", atPosition progressAndParts),
   ("textDocument/documentHighlight", atPosition progressAndParts),
   ("textDocument/moniker", atPosition progressAndParts),
   ("textDocument/references", atPosition (progressAndParts ++
    [required "context" (.record [required "includeDeclaration" .truth])])),
   ("textDocument/hover", atPosition progress),
   ("textDocument/linkedEditingRange", atPosition progress),
   ("textDocument/prepareCallHierarchy", atPosition progress),
   ("textDocument/prepareTypeHierarchy", atPosition progress),
   ("textDocument/signatureHelp", atPosition (optional "context" signatureContext :: progress)),
   ("textDocument/rename", atPosition (required "newName" .text :: progress)),
   ("textDocument/prepareRename", .record aboutPosition),
   ("textDocument/onTypeFormatting",
    atPosition [required "ch" .text, required "options" formatting]),
   ("textDocument/documentLink", ofDocument progressAndParts),
   ("textDocument/codeLens", ofDocument progressAndParts),
   ("textDocument/foldingRange", ofDocument progressAndParts),
   ("textDocument/documentSymbol", ofDocument progressAndParts),
   ("textDocument/documentColor", ofDocument progressAndParts),
   ("textDocument/selectionRange",
    ofDocument (required "positions" (.list position) :: progressAndParts)),
   ("textDocument/diagnostic", ofDocument
    ([optional "identifier" .text, optional "previousResultId" .text] ++ progressAndParts)),
   ("textDocument/semanticTokens/full", ofDocument progressAndParts),
   ("textDocument/semanticTokens/full/delta",
    ofDocument (required "previousResultId" .text :: progressAndParts)),
   ("textDocument/semanticTokens/range", ofRange progressAndParts),
   ("textDocument/formatting", ofDocument (required "options" formatting :: progress)),
   ("textDocument/rangeFormatting", ofRange (required "options" formatting :: progress)),
   ("textDocument/codeAction", ofRange (required "context" actionContext :: progressAndParts)),
   ("textDocument/colorPresentation", ofRange (required "color" color :: progressAndParts)),
   ("textDocument/inlayHint", ofRange progress),
   ("textDocument/inlineValue", ofRange (required "context" (.record
    [required "frameId" .int, required "stoppedLocation" range]) :: progress)),
   ("textDocument/willSaveWaitUntil", .record (aboutDocument ++ [required "reason" .int])),
   ("callHierarchy/incomingCalls", ofSymbol (.list .int)),
   ("callHierarchy/outgoingCalls", ofSymbol (.list .int)),
   ("typeHierarchy/supertypes", ofSymbol .int),
   ("typeHierarchy/subtypes", ofSymbol .int),
   ("codeAction/resolve", action),
   ("codeLens/resolve", .record
    [required "range" range, optional "command" command, optional "data" .any]),
   ("documentLink/resolve", .record
    [required "range" range, optional "target" .uri, optional "tooltip" .text,
     optional "data" .any]),
   ("inlayHint/resolve", hint),
   ("workspaceSymbol/resolve", symbol),
   ("workspace/symbol", .keyed (required "query" .text :: progressAndParts)),
   ("workspace/diagnostic", .keyed
    ([optional "identifier" .text,
      required "previousResultIds" (.list (.record
       [required "uri" .uri, required "value" .text]))] ++ progressAndParts)),
   ("workspace/executeCommand", .keyed
    ([required "command" .text, omissible "arguments" (.list .any)] ++ progress)),
   ("workspace/willCreateFiles", files ["uri"]),
   ("workspace/willRenameFiles", files ["oldUri", "newUri"]),
   ("workspace/willDeleteFiles", files ["uri"])]

end ElmAssist.Server.Shape
