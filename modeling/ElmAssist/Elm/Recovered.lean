/-
  Trees of files with faults.

  `Tree.recovered` parses a file with the grammar of `Productions`, which finds a
  way on behind every fault, and takes the top-level nodes from the parse tree.  A
  node is broken if there is a fault in it.
-/
import ElmAssist.Elm.Layout
import ElmAssist.Elm.Node
import ElmAssist.Elm.Productions

namespace ElmAssist.Elm

open Parsing

namespace Recovered

/-- The parser of Elm files.  Its table is made when it is first needed. -/
def parser : Thunk (Parser (Option Layout)) :=
  Thunk.mk fun _ => Parser.ofGrammar Productions.grammar none Layout.scan

/-- A node of a parse tree with its kind; the kind of a fault is empty. -/
abbrev Kinded := String × ParseTree (Option Layout)

/-- A source with the table it is parsed with. -/
structure Context where
  table : Table
  source : Source

namespace Context

variable (c : Context)

/-- The nodes below a tree. -/
def below (t : ParseTree (Option Layout)) : List Kinded :=
  t.nodes c.table

/-- The first node of a kind below a tree. -/
def child? (t : ParseTree (Option Layout)) (kind : String) : Option (ParseTree (Option Layout)) :=
  ((c.below t).find? (·.1 == kind)).map (·.2)

/-- The text of a tree. -/
def text (t : ParseTree (Option Layout)) : String :=
  c.source.slice t.info.start t.info.stop

/-- The text of the first node of a kind below a tree. -/
def childText? (t : ParseTree (Option Layout)) (kind : String) : Option String :=
  (c.child? t kind).map c.text

/-- Where a tree starts. -/
def place (t : ParseTree (Option Layout)) : Place :=
  let s := c.source.spot t.info.start
  ⟨s.offset, s.row, s.column⟩

/-- The entry of an exposing list that a node is. -/
def exposedNode? (node : Kinded) : Option ExposedNode :=
  let (kind, t) := node
  if kind == ".." then some .everything
  else if kind == "exposedValue" then some (.value (c.text t))
  else if kind == "exposedType" then
    some (.type (c.childText? t "upperName") (c.child? t "exposedConstructors").isSome)
  else if kind == "exposedOperator" then some (.operator (c.text t))
  else none

/-- The exposing list below a tree. -/
def exposing? (t : ParseTree (Option Layout)) : Option (List ExposedNode) :=
  (c.child? t "exposingList").map fun l => (c.below l).filterMap c.exposedNode?

/-- The name given to a module by the import clause that a tree is. -/
def shortName? (t : ParseTree (Option Layout)) : Option String :=
  (c.child? t "asClause").bind (c.childText? · "upperName")

/-- The names of the variants below a tree. -/
def variants (t : ParseTree (Option Layout)) : List (Option String) :=
  ((c.below t).filter (·.1 == "variant")).map fun (_, v) => c.childText? v "upperName"

/-- The node of a file that a tree of a kind stands for. -/
def node (tree : Kinded) : Node :=
  let (kind, t) := tree
  let broken := t.info.cost != 0
  let lower := c.childText? t "lowerName"
  let upper := c.childText? t "upperName"
  let type := c.childText? t "typeExpression"
  let path := c.childText? t "upperPath"
  match kind with
  | "" => .unreadable (c.place t)
  | "header" => .header (c.place t) broken path (c.exposing? t)
  | "importClause" => .importClause broken path (c.shortName? t) (c.exposing? t)
  | "value" => .value broken ((c.child? t "functionLeft").bind (c.childText? · "lowerName"))
  | "signature" => .signature broken lower type
  | "portSignature" => .port broken lower type
  | "customType" => .customType broken upper (c.variants t)
  | "typeAlias" => .typeAlias broken upper
  | "operatorDeclaration" => .operator broken
  | "blockComment" => .comment ⟨true, c.text t⟩
  | "lineComment" => .comment ⟨false, c.text t⟩
  | _ => .fragment broken

end Context

end Recovered

/-- The syntax tree of a source text that may have faults. -/
def Tree.recovered (source : String) : Tree :=
  let parser := Recovered.parser.get
  let text := Source.ofString source
  let root := parser.parse text
  let context : Recovered.Context := ⟨parser.table, text⟩
  ⟨(context.below root).map context.node, root.info.cost != 0⟩

end ElmAssist.Elm
