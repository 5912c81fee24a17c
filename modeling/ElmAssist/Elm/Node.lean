/-
  Syntax trees of Elm files, and the modules they describe.

  A `Tree` is the list of the top-level nodes of a file: header, imports,
  declarations, comments, and the stretches that could not be read.  `Tree.lower`
  turns it into a `Module`.  A broken declaration is dropped and the rest stays;
  only a broken header, or a file in which nothing is recognised, is an error.

  An annotation belongs to the function declared directly behind it, and a
  documentation comment to the declaration (or to its annotation) directly behind
  it.  `withBefore` pairs each node with the nodes in front of it for that.
-/
import ElmAssist.Elm.Module
import ElmAssist.Text.Blank

namespace ElmAssist.Elm

/-! ## Places and comments -/

/-- A place in a text. -/
structure Place where
  /-- The number of bytes in front of the place. -/
  offset : Nat := 0
  /-- The number of line feeds in front of it. -/
  row : Nat := 0
  /-- The number of bytes behind the last line feed. -/
  column : Nat := 0
  deriving DecidableEq, Repr

/-- A comment with its delimiters. -/
structure Comment where
  /-- Whether it is a block comment. -/
  block : Bool
  text : String
  deriving DecidableEq, Repr

/-! ## Nodes -/

/-- An entry of an exposing list, as written. -/
inductive ExposedNode where
  /-- The two dots that expose everything. -/
  | everything
  /-- A value. -/
  | value (text : String)
  /-- A type, with or without `(..)`. -/
  | type (name : Option String) (constructors : Bool)
  /-- An operator with its parentheses. -/
  | operator (text : String)
  deriving DecidableEq, Repr

/-- A top-level node.  A node is broken if something inside it could not be read;
    parts that are missing are `none`. -/
inductive Node where
  /-- The module header. -/
  | header (place : Place) (broken : Bool) (name : Option String)
      (exposing : Option (List ExposedNode))
  /-- An import clause. -/
  | importClause (broken : Bool) (name : Option String) (shortName : Option String)
      (exposing : Option (List ExposedNode))
  /-- A value declaration; a destructuring has no name. -/
  | value (broken : Bool) (name : Option String)
  /-- A type annotation. -/
  | signature (broken : Bool) (name : Option String) (type : Option String)
  /-- A port. -/
  | port (broken : Bool) (name : Option String) (type : Option String)
  /-- A custom type with its variants. -/
  | customType (broken : Bool) (name : Option String) (variants : List (Option String))
  /-- A type alias. -/
  | typeAlias (broken : Bool) (name : Option String)
  /-- A declaration of an operator. -/
  | operator (broken : Bool)
  /-- A comment. -/
  | comment (comment : Comment)
  /-- A piece of a declaration that could not be completed. -/
  | fragment (broken : Bool)
  /-- Text that could not be read. -/
  | unreadable (place : Place)
  deriving DecidableEq, Repr

/-- Whether something in a node could not be read. -/
def Node.hasFault : Node → Bool
  | header _ broken _ _ | importClause broken _ _ _ | value broken _ | signature broken _ _
  | port broken _ _ | customType broken _ _ | typeAlias broken _ | operator broken
  | fragment broken => broken
  | comment _ => false
  | unreadable _ => true

/-- The syntax tree of a file. -/
structure Tree where
  nodes : List Node
  /-- Whether the file has text that could not be read. -/
  hasFault : Bool
  deriving DecidableEq, Repr

/-! ## Errors -/

/-- Why a file is no module. -/
inductive ParseError where
  /-- The bytes of the file are not UTF-8. -/
  | invalidUtf8
  /-- The module header is broken. -/
  | malformedHeader (row column : Nat)
  /-- Nothing in the file is recognised. -/
  | unrecognized
  deriving DecidableEq, Repr

/-- The wording of an error. -/
def ParseError.message : ParseError → String
  | invalidUtf8 => "source is not valid UTF-8"
  | malformedHeader row column =>
    "malformed module header at " ++ toString row ++ ":" ++ toString column
  | unrecognized => "no recognizable Elm declarations"

/-- A parser of source texts. -/
abbrev SourceParser := String → Except ParseError Module

/-- Parses the bytes of a file, which have to be UTF-8. -/
def SourceParser.ofBytes (parse : SourceParser) (bytes : ByteArray) : Except ParseError Module :=
  match String.fromUTF8? bytes with
  | some source => parse source
  | none => .error .invalidUtf8

/-! ## Exposing lists -/

/-- The item that an entry stands for. -/
def ExposedNode.item? : ExposedNode → Option ExposedItem
  | everything => none
  | value text => some (.value (Text.collapse text))
  | type name constructors => name.map fun n => .type n constructors
  | operator text =>
    some (.operator (Text.trimBy (fun c => c == '(' || c == ')' || Text.isBlank c) text))

/-- What a list of entries exposes. -/
def Exposing.ofNodes (nodes : List ExposedNode) : Exposing :=
  if nodes.contains .everything then .all else .explicit (nodes.filterMap (·.item?))

/-! ## Documentation -/

/-- The body of a documentation comment. -/
def Comment.documentation? (c : Comment) : Option String :=
  if c.block then
    ("\x7b-|".toList.isPrefixOf? c.text.toList).map fun body =>
      let cut := "-\x7d".toList
      let body := if cut.isSuffixOf body then body.take (body.length - cut.length) else body
      Text.trim (String.ofList body)
  else none

/-- The documentation that the nodes in front of a declaration, last one first,
    give it. -/
def documentation? : List Node → Option String
  | .comment c :: _ => c.documentation?
  | _ => none

/-! ## Declarations -/

/-- Pairs each node with the nodes in front of it, last one first. -/
def withBefore (before : List Node) : List Node → List (List Node × Node)
  | [] => []
  | node :: rest => (before, node) :: withBefore (node :: before) rest

/-- The annotation of a function directly in front of it, and the nodes in front
    of that annotation. -/
def attached? (name : String) : List Node → Option (Option String × List Node)
  | .signature _ n type :: before => if n = some name then some (type, before) else none
  | _ => none

/-- The function that a value declaration or port declares. -/
def function? : List Node × Node → Option Function
  | (before, .value false (some name)) =>
    match attached? name before with
    | some (type, before) => some ⟨name, type.map Text.collapse, documentation? before⟩
    | none => some ⟨name, none, documentation? before⟩
  | (before, .port false (some name) type) =>
    some ⟨name, type.map Text.collapse, documentation? before⟩
  | _ => none

/-- The custom type that a declaration declares. -/
def customType? : List Node × Node → Option CustomType
  | (before, .customType false (some name) variants) =>
    some ⟨name, variants.filterMap id, documentation? before⟩
  | _ => none

/-- The type alias that a declaration declares. -/
def typeAlias? : List Node × Node → Option TypeAlias
  | (before, .typeAlias false (some name)) => some ⟨name, documentation? before⟩
  | _ => none

/-- The import of an import clause; it counts even if it is broken, as long as it
    has a name. -/
def import? : Node → Option Import
  | .importClause _ (some name) shortName exposing =>
    some ⟨Text.collapse name, shortName, exposing.map Exposing.ofNodes⟩
  | _ => none

/-! ## Headers -/

/-- The name and exposing list of a header. -/
def header? : Node → Option (String × Exposing)
  | .header _ false (some name) exposing =>
    some (Text.collapse name, (exposing.map Exposing.ofNodes).getD .all)
  | _ => none

/-- Where a node is a broken header: a header node that is broken or has no name. -/
def brokenHeader? : Node → Option Place
  | .header place broken name _ => if broken || name.isNone then some place else none
  | _ => none

/-- Where a file starts with text that could not be read but looks like a header. -/
def unreadableHeader? (source : String) : List Node → Option Place
  | .unreadable place :: _ =>
    if place.offset = 0 ∧ "module".toList.isPrefixOf (Text.trimStart source).toList then some place
    else none
  | _ => none

/-- The place of the first broken header. -/
def faultyHeader? (source : String) (nodes : List Node) : Option Place :=
  (unreadableHeader? source nodes).or (nodes.findSome? brokenHeader?)

/-! ## Lowering -/

/-- Whether a node, seen with those in front of it, contributes to the module. -/
def isRecognized (entry : List Node × Node) : Bool :=
  (header? entry.2).isSome || (import? entry.2).isSome || (function? entry).isSome ||
    (customType? entry).isSome || (typeAlias? entry).isSome

/-- The module that the nodes of a file describe. -/
def moduleOf (nodes : List Node) : Module :=
  let entries := withBefore [] nodes
  let header := (nodes.filterMap header?).getLast?
  { name := (header.map (·.1)).getD defaultModuleName
    exposing := (header.map (·.2)).getD .all
    imports := nodes.filterMap import?
    functions := entries.filterMap function?
    types := entries.filterMap customType?
    aliases := entries.filterMap typeAlias? }

/-- The module of a file.  A broken header is an error, and so is a text that is
    not blank, has faults and holds nothing that is recognised. -/
def Tree.lower (tree : Tree) (source : String) : Except ParseError Module :=
  match faultyHeader? source tree.nodes with
  | some place => .error (.malformedHeader place.row place.column)
  | none =>
    if !(withBefore [] tree.nodes).any isRecognized && !Text.isAllBlank source && tree.hasFault then
      .error .unrecognized
    else .ok (moduleOf tree.nodes)

end ElmAssist.Elm
