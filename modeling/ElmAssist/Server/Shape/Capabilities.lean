/-
  What an editor says about itself.

  In the first request of a session the editor tells what it can do.  The server
  uses none of it, but refuses a session whose first request does not have the
  right shape.
-/
import ElmAssist.Server.Shape.Params

namespace ElmAssist.Server.Shape

open FieldShape

/-! ## Recurring records -/

/-- A feature that can be registered later on. -/
def registration : FieldShape := optional "dynamicRegistration" .truth

/-- A feature of which nothing else is told. -/
def plainFeature : Shape := .record [registration]

/-- A feature with switches. -/
def feature (switches : List String) : Shape := .record (registration :: FieldShape.switches switches)

/-- A feature that the server can ask to be refreshed. -/
def refreshed : Shape := .record (switches ["refreshSupport"])

/-- The properties that can be filled in later on. -/
def resolved : Shape := .record [required "properties" (.list .text)]

/-- The kinds that are known, by their numbers. -/
def knownKinds : Shape := .record [optional "valueSet" (.list .int)]

/-- The tags that are known; a Boolean does as well. -/
def knownTags : Shape := .either .truth (.record [required "valueSet" (.list .int)])

/-- The formats of texts that can be shown. -/
def formats : Shape := .list (.oneOf ["plaintext", "markdown"])

/-! ## The workspace -/

/-- Edits of several files. -/
def workspaceEdits : Shape := .record
  [optional "documentChanges" .truth,
   optional "resourceOperations" (.list (.oneOf ["create", "rename", "delete"])),
   optional "failureHandling"
    (.oneOf ["abort", "transactional", "textOnlyTransactional", "undo"]),
   optional "normalizesLineEndings" .truth,
   optional "changeAnnotationSupport" (.record (switches ["groupsOnLabel"]))]

/-- The symbols of a workspace. -/
def workspaceSymbols : Shape := .record
  [registration, optional "symbolKind" knownKinds, defaulted "tagSupport" knownTags,
   optional "resolveSupport" resolved]

/-- What the editor can do with a workspace. -/
def workspaceFeatures : Shape := .record
  [optional "applyEdit" .truth, optional "workspaceEdit" workspaceEdits,
   optional "didChangeConfiguration" plainFeature,
   optional "didChangeWatchedFiles" (feature ["relativePatternSupport"]),
   optional "symbol" workspaceSymbols, optional "executeCommand" plainFeature,
   optional "workspaceFolders" .truth, optional "configuration" .truth,
   optional "semanticTokens" refreshed, optional "codeLens" refreshed,
   optional "fileOperations" (feature
    ["didCreate", "willCreate", "didRename", "willRename", "didDelete", "willDelete"]),
   optional "inlineValue" refreshed, optional "inlayHint" refreshed,
   optional "diagnostic" refreshed]

/-! ## Documents -/

/-- Completion items. -/
def completionItems : Shape := .record
  (switches ["snippetSupport", "commitCharactersSupport"] ++
   [optional "documentationFormat" formats] ++
   switches ["deprecatedSupport", "preselectSupport"] ++
   [defaulted "tagSupport" knownTags, optional "insertReplaceSupport" .truth,
    optional "resolveSupport" resolved,
    optional "insertTextModeSupport" (.record [required "valueSet" (.list .int)]),
    optional "labelDetailsSupport" .truth])

/-- Completion. -/
def completionFeature : Shape := .record
  [registration, optional "completionItem" completionItems,
   optional "completionItemKind" knownKinds, optional "contextSupport" .truth,
   optional "insertTextMode" .int,
   optional "completionList" (.record [optional "itemDefaults" (.list .text)])]

/-- Help with signatures. -/
def signatureFeature : Shape := .record
  [registration,
   optional "signatureInformation" (.record
    [optional "documentationFormat" formats,
     optional "parameterInformation" (.record (switches ["labelOffsetSupport"])),
     optional "activeParameterSupport" .truth]),
   optional "contextSupport" .truth]

/-- The symbols of a document. -/
def symbolFeature : Shape := .record
  [registration, optional "symbolKind" knownKinds,
   optional "hierarchicalDocumentSymbolSupport" .truth, defaulted "tagSupport" knownTags]

/-- Actions on code. -/
def actionFeature : Shape := .record
  ([registration,
    optional "codeActionLiteralSupport" (.record
     [required "codeActionKind" (.record [required "valueSet" (.list .text)])])] ++
   switches ["isPreferredSupport", "disabledSupport", "dataSupport"] ++
   [optional "resolveSupport" resolved, optional "honorsChangeAnnotations" .truth])

/-- Renaming. -/
def renameFeature : Shape := .record
  [registration, optional "prepareSupport" .truth,
   optional "prepareSupportDefaultBehavior" .int, optional "honorsChangeAnnotations" .truth]

/-- Diagnostics that the server sends. -/
def publishedDiagnostics : Shape := .record
  ([optional "relatedInformation" .truth, defaulted "tagSupport" knownTags] ++
   switches ["versionSupport", "codeDescriptionSupport", "dataSupport"])

/-- Folding. -/
def foldingFeature : Shape := .record
  [registration, optional "rangeLimit" .nat, optional "lineFoldingOnly" .truth,
   optional "foldingRangeKind" (.record
    [optional "valueSet" (.list (.oneOf ["comment", "imports", "region"]))]),
   optional "foldingRange" (.record (switches ["collapsedText"]))]

/-- Tokens with a meaning. -/
def tokenFeature : Shape := .record
  ([registration,
    required "requests" (.record
     [optional "range" .truth,
      optional "full" (.either .truth (.keyed (switches ["delta"])))]),
    required "tokenTypes" (.list .text), required "tokenModifiers" (.list .text),
    required "formats" (.list .text)] ++
   switches ["overlappingTokenSupport", "multilineTokenSupport", "serverCancelSupport",
    "augmentsSyntaxTokens"])

/-- What the editor can do with a document. -/
def documentFeatures : Shape := .record
  [optional "synchronization" (feature ["willSave", "willSaveWaitUntil", "didSave"]),
   optional "completion" completionFeature,
   optional "hover" (.record [registration, optional "contentFormat" formats]),
   optional "signatureHelp" signatureFeature, optional "references" plainFeature,
   optional "documentHighlight" plainFeature, optional "documentSymbol" symbolFeature,
   optional "formatting" plainFeature, optional "rangeFormatting" plainFeature,
   optional "onTypeFormatting" plainFeature, optional "declaration" (feature ["linkSupport"]),
   optional "definition" (feature ["linkSupport"]),
   optional "typeDefinition" (feature ["linkSupport"]),
   optional "implementation" (feature ["linkSupport"]), optional "codeAction" actionFeature,
   optional "codeLens" plainFeature, optional "documentLink" (feature ["tooltipSupport"]),
   optional "colorProvider" plainFeature, optional "rename" renameFeature,
   optional "publishDiagnostics" publishedDiagnostics, optional "foldingRange" foldingFeature,
   optional "selectionRange" plainFeature, optional "linkedEditingRange" plainFeature,
   optional "callHierarchy" plainFeature, optional "semanticTokens" tokenFeature,
   optional "moniker" plainFeature, optional "typeHierarchy" plainFeature,
   optional "inlineValue" plainFeature,
   optional "inlayHint" (.record [registration, optional "resolveSupport" resolved]),
   optional "diagnostic" (feature ["relatedDocumentSupport"])]

/-! ## The editor itself -/

/-- What the windows of the editor can show. -/
def windowFeatures : Shape := .record
  [optional "workDoneProgress" .truth,
   optional "showMessage" (.record
    [optional "messageActionItem" (.record (switches ["additionalPropertiesSupport"]))]),
   optional "showDocument" (.record [required "support" .truth])]

/-- What else the editor tells about itself. -/
def generalFeatures : Shape := .record
  [optional "regularExpressions" (.record [required "engine" .text, optional "version" .text]),
   optional "markdown" (.record
    [required "parser" .text, optional "version" .text, optional "allowedTags" (.list .text)]),
   optional "staleRequestSupport" (.record
    [required "cancel" .truth, required "retryOnContentModified" (.list .text)]),
   optional "positionEncodings" (.list .text)]

/-- Everything that the editor can do. -/
def clientFeatures : Shape := .record
  [optional "workspace" workspaceFeatures, optional "textDocument" documentFeatures,
   optional "window" windowFeatures, optional "general" generalFeatures,
   optional "experimental" .any]

/-- The parameters of the first request of a session. -/
def sessionParams : Shape := .record
  [optional "processId" .nat, optional "rootPath" .text, optional "rootUri" .uri,
   optional "initializationOptions" .any, required "capabilities" clientFeatures,
   optional "trace" (.oneOf ["off", "messages", "verbose"]),
   optional "workspaceFolders" (.list (.record [required "uri" .uri, required "name" .text])),
   optional "clientInfo" (.record [required "name" .text, optional "version" .text]),
   optional "locale" .text]

end ElmAssist.Server.Shape
