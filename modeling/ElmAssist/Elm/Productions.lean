/-
  The grammar of Elm files, for the parser that recovers from faults.

  The layout of a text is seen by three externals: the end of a declaration, the
  opening of a block and its end.  Three more depend on what follows them: a minus
  sign that negates, the content of a shader and that of a block comment.

  A name behind a dot has to touch the dot, so there are attached terminals beside
  the plain ones.
-/
import ElmAssist.Elm.Symbols
import ElmAssist.Parsing.Grammar

namespace ElmAssist.Elm.Productions

open Parsing

/-! ## Terminals -/

/-- What separates tokens: a blank character, or a line break behind a backslash. -/
def separatorPattern : Pattern :=
  .alt (.char isSeparator)
    (.inOrder [.literal "\\", .optional (.literal "\r"), .literal "\n"])

/-- A name whose first character is of a class. -/
def namePattern (e : Text.Edition) (isFirst : Text.Edition → Char → Bool) : Pattern :=
  .seq (.char (isFirst e)) (.repeated (.char (isNamePart e)))

/-- A number: decimal with fraction and exponent, or hexadecimal. -/
def numberPattern : Pattern :=
  let digits := Pattern.many (.char Char.isDigit)
  let sign := Pattern.optional (.literal "-")
  .seq sign (.alt
    (.inOrder [digits, .optional (.seq (.literal ".") digits),
      .optional (.inOrder [.literal "e", sign, digits])])
    (.seq (.literal "0x") (.many (.char isHexDigit))))

/-- The characters that may be escaped. -/
def escapable : List Char := ['n', 'r', 't', '"', '\'', '\\']

/-- An escape in a string or character. -/
def escapePattern : Pattern :=
  .seq (.literal "\\") (.alt (.oneOf escapable)
    (.inOrder [.literal "u\x7b", .many (.char isHexDigit), .literal "\x7d"]))

/-- Something that looks like an escape. -/
def badEscapePattern : Pattern :=
  .seq (.literal "\\") (.alt (.except escapable)
    (.inOrder [.literal "u\x7b", .repeated (.except ['\x7d']), .literal "\x7d"]))

/-- A symbol that appears as a node of its own kind. -/
def sign (text : String) : Terminal :=
  .fixed text text (.node text)

/-- The terminals with patterns.  Where a token is missing, the first that helps is
    supposed. -/
def terminals : List Terminal :=
  [{ name := "lowerName", appearance := .node "lowerName"
     pattern := namePattern .twelve Text.isLowerLetter }]
  ++ ["(", ",", ")", "|"].map Terminal.fixed
  ++ [.fixed "\x7b" "openBrace" .mark, .fixed "\x7d" "closeBrace" .mark]
  ++ ["::", "[", "]"].map Terminal.fixed
  ++ compoundWords.map (Terminal.keyword · .mark)
  ++ [.fixed "'" "charQuote" (.node "quote"),
      { name := "charText", appearance := .hidden, pattern := .except ['\\', '\'', '\n']
        inFaults := false },
      .fixed "\"\"\"" "longQuote" (.node "quote"),
      .fixed "\"" "stringQuote" (.node "quote"),
      { name := "longText", appearance := .node "text", pattern := .many (.except ['\\', '"'])
        attached := true, priority := 1, inFaults := false },
      { name := "innerQuote", appearance := .node "text", pattern := .oneOf ['"']
        attached := true },
      { name := "stringText", appearance := .node "text"
        pattern := .many (.except ['\\', '"', '\n', '\r'])
        attached := true, priority := 1, inFaults := false },
      { name := "escape", appearance := .node "escape", pattern := escapePattern },
      { name := "badEscape", appearance := .node "badEscape", pattern := badEscapePattern
        inFaults := false },
      { name := "number", appearance := .node "number", pattern := numberPattern },
      { name := "attachedUpper", appearance := .node "upperName"
        pattern := namePattern .sixteen Text.isUpperLetter, attached := true },
      { name := "attachedLower", appearance := .node "lowerName"
        pattern := namePattern .sixteen Text.isLowerLetter, attached := true, inFaults := false },
      { Terminal.fixed "." "attachedDot" (.node ".") with attached := true },
      { name := "upperName", appearance := .node "upperName"
        pattern := namePattern .twelve Text.isUpperLetter }]
  ++ (operators.filter (· != "::")).map Terminal.fixed
  ++ itemWords.map (fun w => Terminal.keyword w (.node w))
  ++ ["=", "->", ":"].map sign
  ++ [{ sign "\\" with inFaults := false }]
  ++ ["_", ".", "..", "[glsl|", "|]"].map sign
  ++ [{ name := "lineComment", appearance := .node "lineComment"
        pattern := .seq (.literal "--") (.repeated (.except ['\r', '\n'])) },
      .fixed "\x7b-" "openComment" .mark,
      .fixed "-\x7d" "closeComment" .mark]

/-- The terminals that depend on the layout, or on what follows. -/
def externals : List External :=
  [{ name := "endDeclaration" },
   { name := "openBlock" },
   { name := "endBlock" },
   { name := "minus", appearance := .node "minus" },
   { name := "shaderText", appearance := .node "shaderText" },
   { name := "commentText" }]

/-! ## Rules -/

open Rule

/-- A hidden definition. -/
def hidden (name : String) (rule : Rule) : Definition :=
  { name, rule, appearance := .hidden }

/-- A definition that appears as a node. -/
def visible (name : String) (rule : Rule) : Definition :=
  { name, rule }

/-- A definition whose parts belong to the right where that is open. -/
def toTheRight (d : Definition) : Definition :=
  { d with side := some .right }

/-- A definition that is preferred to others. -/
def preferred (d : Definition) : Definition :=
  { d with precedence := 1 }

/-- Items with commas between them. -/
def commaSeparated (item : Rule) : Rule :=
  separatedBy "," item

/-- A dot that touches what is in front of it. -/
def dot : Rule := labelled "." "attachedDot"

/-- An upper-case name that touches the dot in front of it. -/
def dottedUpper : Rule := inOrder [dot, labelled "upperName" "attachedUpper"]

/-- A lower-case name that touches the dot in front of it. -/
def dottedLower : Rule := inOrder [dot, labelled "lowerName" "attachedLower"]

/-- Fields of a record or record type, with an optional base. -/
def fields (item : String) : Rule :=
  inOrder ["openBrace",
    optional (alt (commaSeparated item) (inOrder ["recordBase", "|", commaSeparated item])),
    "closeBrace"]

/-- Header, imports and exposing lists. -/
def fileRules : List Definition :=
  [visible "file" (inOrder [optional (seq "header" "endDeclaration"), optional "importList",
     optional "declarationList"]),
   hidden "importList" (many (seq "importClause" "endDeclaration")),
   hidden "declarationList" (many (seq "declaration" "endDeclaration")),
   visible "header" (alt
     (inOrder [optional "port", "module", withRole "name" "upperPath",
       withRole "exposing" "exposingList"])
     (inOrder ["effect", "module", withRole "name" "upperPath", "where", "record",
       withRole "exposing" "exposingList"])),
   visible "exposingList" (inOrder ["exposing", "(",
     alt (withRole "everything" "..") (commaSeparated "exposedItem"), ")"]),
   hidden "exposedItem" (oneOf ["exposedValue", "exposedType", "exposedOperator"]),
   visible "exposedValue" "lowerName",
   visible "exposedType" (inOrder ["upperName", optional "exposedConstructors"]),
   visible "exposedConstructors" (inOrder ["(", "..", ")"]),
   visible "exposedOperator" (inOrder ["(", "operatorSymbol", ")"]),
   visible "importClause" (inOrder ["import", withRole "module" "upperPath",
     optional (withRole "short" "asClause"), optional (withRole "exposing" "exposingList")]),
   visible "asClause" (inOrder ["as", withRole "name" "upperName"])]

/-- Value declarations. -/
def valueRules : List Definition :=
  [hidden "declaration" (oneOf ["typeAlias", "customType", "value", "signature", "portSignature",
     "operatorDeclaration"]),
   visible "value" (inOrder [alt (withRole "left" "functionLeft") (withRole "pattern" "pattern"),
     "=", withRole "body" "expression"]),
   preferred (visible "functionLeft"
     (inOrder ["lowerName", repeated (withRole "pattern" "argumentPattern")])),
   hidden "argumentPattern" (oneOf ["anythingPattern", "namePattern", "tuplePattern", "unit",
     "listPattern", "recordPattern", "literal", "bracketedPattern",
     labelled "constructorPattern" "bareConstructor"]),
   { visible "bareConstructor" "upperPath" with appearance := .node "constructorPattern" }]

/-- Types and their declarations. -/
def typeRules : List Definition :=
  [visible "customType" (inOrder ["type", withRole "name" "upperName",
     repeated (withRole "parameter" "typeParameter"), "=",
     separatedBy "|" (withRole "variant" "variant")]),
   visible "typeParameter" "lowerName",
   visible "variant" (inOrder [withRole "name" "upperName",
     repeated (withRole "part" "singleType")]),
   visible "typeAlias" (inOrder ["type", "alias", withRole "name" "upperName",
     repeated (withRole "variable" "typeParameter"), "=", withRole "type" "typeExpression"]),
   visible "typeExpression" (separatedBy "->" (withRole "part" "typeTerm")),
   hidden "typeTerm" (alt "namedType" "singleType"),
   visible "namedType" (inOrder ["upperPath", many (withRole "part" "singleType")]),
   { visible "bareType" "upperPath" with appearance := .node "namedType" },
   hidden "singleType" (oneOf [labelled "namedType" "bareType", "typeVariable", "recordType",
     "tupleType", inOrder ["(", "typeExpression", ")"]]),
   visible "typeVariable" "lowerName",
   visible "recordType" (fields "fieldType"),
   visible "fieldType" (inOrder ["lowerName", ":", "typeExpression"]),
   visible "tupleType" (alt "unit"
     (inOrder ["(", "typeExpression", ",", commaSeparated "typeExpression", ")"])),
   visible "signature" (inOrder [withRole "name" "lowerName", ":",
     withRole "type" "typeExpression"]),
   visible "portSignature" (inOrder ["port", withRole "name" "lowerName", ":",
     withRole "type" "typeExpression"]),
   visible "operatorDeclaration" (inOrder ["infix", oneOf ["left", "right", "non"], "number",
     "operatorFunction", "=", "name"])]

/-- Patterns. -/
def patternRules : List Definition :=
  [visible "pattern" (inOrder [withRole "child" (alt "consPattern" "singlePattern"),
     optional (seq "as" (withRole "whole" "namePattern"))]),
   visible "consPattern" (inOrder ["singlePattern", many (seq "::" "singlePattern")]),
   hidden "singlePattern" (oneOf ["bracketedPattern", "literal", "anythingPattern", "namePattern",
     "unionPattern", "unit", "listPattern", "recordPattern", "tuplePattern"]),
   visible "namePattern" "lowerName",
   visible "anythingPattern" "_",
   visible "recordPattern" (inOrder ["openBrace", commaSeparated "namePattern", "closeBrace"]),
   visible "listPattern" (inOrder ["[", optional (commaSeparated "pattern"), "]"]),
   toTheRight (visible "unionPattern" (inOrder [withRole "constructor" "upperPath",
     repeated (withRole "argument" "argumentPattern")])),
   visible "tuplePattern" (inOrder ["(", "pattern", ",", commaSeparated "pattern", ")"]),
   hidden "bracketedPattern" (inOrder ["(", "pattern", ")"])]

/-- Expressions. -/
def expressionRules : List Definition :=
  [toTheRight (hidden "expression" (alt "operation" "operand")),
   toTheRight (visible "operation" (inOrder ["operand", many (seq "operator" "operand")])),
   visible "operator" "operatorSymbol",
   visible "operatorFunction" (inOrder ["(", "operatorSymbol", ")"]),
   hidden "operand" (alt "call" "atom"),
   toTheRight (visible "call" (inOrder ["callTarget", many "atom"])),
   preferred (hidden "callTarget" (oneOf ["fieldAccess", "accessor", "operatorFunction",
     "bracketed", "name"])),
   hidden "atom" (oneOf ["bracketed", "literal", "list", "tuple", "unit", "negation",
     "fieldAccess", "accessor", "operatorFunction", "record", "name", "conditional",
     "caseDistinction", "letExpression", "lambda", "shader"]),
   visible "fieldAccess" (inOrder ["accessTarget", dottedLower]),
   hidden "accessTarget" (oneOf ["fieldAccess", "name", "bracketed", "record"]),
   visible "negation" (inOrder ["minus", "atom"]),
   visible "bracketed" (inOrder ["(", "expression", ")"]),
   visible "tuple" (inOrder ["(", "expression", ",", commaSeparated "expression", ")"]),
   visible "unit" (inOrder ["(", ")"]),
   visible "list" (inOrder ["[", optional (commaSeparated "expression"), "]"]),
   visible "record" (fields "recordField"),
   visible "recordBase" "lowerName",
   visible "recordField" (inOrder ["lowerName", "=", "expression"]),
   visible "name" (alt "upperPath" "valuePath"),
   toTheRight (visible "lambda" (inOrder ["\\", many "lambdaParameter", "->", "expression"])),
   hidden "lambdaParameter" (withRole "parameter" "pattern"),
   visible "caseDistinction" (inOrder ["case", "expression", "of", "openBlock", "caseBranch",
     repeated (seq "endDeclaration" "caseBranch"), "endBlock"]),
   visible "caseBranch" (inOrder ["pattern", "->", "expression"]),
   toTheRight (visible "letExpression" (inOrder ["let", "openBlock", "letDeclaration",
     repeated (seq "endDeclaration" "letDeclaration"), "endBlock", "in", "expression"])),
   hidden "letDeclaration" (alt "value" "signature"),
   toTheRight (visible "conditional"
     (inOrder ["if", "expression", "then", "expression", "else", "expression"])),
   visible "shader" (inOrder ["[glsl|", "shaderText", "|]"])]

/-- Literals, names and comments. -/
def lexicalRules : List Definition :=
  let escapes : Rule := alt "escape" "badEscape"
  [hidden "literal" (oneOf ["charLiteral", "numberLiteral", "stringLiteral"]),
   visible "charLiteral" (inOrder [labelled "quote" "charQuote",
     oneOf ["charText", "escape", "badEscape"], labelled "closing" "charQuote"]),
   visible "numberLiteral" "number",
   visible "stringLiteral" (alt
     (inOrder [labelled "quote" "longQuote",
       repeated (oneOf [labelled "text" "longText", labelled "text" "innerQuote", escapes]),
       labelled "closing" "longQuote"])
     (inOrder [labelled "quote" "stringQuote",
       repeated (alt (labelled "text" "stringText") escapes), labelled "closing" "stringQuote"])),
   toTheRight (visible "upperPath" (inOrder ["upperName", repeated dottedUpper])),
   visible "valuePath" (alt "lowerName"
     (inOrder ["upperName", repeated dottedUpper, dottedLower])),
   visible "accessor" (inOrder [".", labelled "lowerName" "attachedLower"]),
   visible "operatorSymbol" (oneOf (operators.map fun o => step { symbol := o })),
   visible "blockComment" (inOrder ["openComment", "commentText", "closeComment"])]

/-- The grammar of Elm files. -/
def grammar : Grammar :=
  { terminals
    externals
    definitions :=
      fileRules ++ valueRules ++ typeRules ++ patternRules ++ expressionRules ++ lexicalRules
    blank := separatorPattern
    extraTerminals := ["lineComment"]
    extraDefinitions := ["blockComment"]
    clashes :=
      [("longQuote", "stringQuote"), ("escape", "badEscape"), ("number", "-"),
       ("attachedUpper", "upperName"), ("attachedLower", "lowerName"), ("attachedDot", "."),
       ("[glsl|", "["), ("lineComment", "-"), ("lineComment", "charText"),
       ("openComment", "openBrace")]
    greedy := ["charText", "longText", "stringText", "badEscape", "\\"]
    companions := [("attachedUpper", "attachedLower")] }

end ElmAssist.Elm.Productions
