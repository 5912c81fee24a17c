/-
  From source text to modules.

  The syntax tree of a text comes from a parser, and the module from the tree.  `parseWith` leaves
  the parser open.  The one in use reads a plainly written file directly; all others are parsed
  with a grammar that recovers from faults.
-/
import ElmAssist.Elm.Plain.Items
import ElmAssist.Elm.Recovered

namespace ElmAssist.Elm

/-- The module that a source text holds, if `treeOf` is the parser. -/
def parseWith (treeOf : String → Tree) : SourceParser :=
  fun source => (treeOf source).lower source

/-- The syntax tree of a source text. -/
def Tree.ofSource (source : String) : Tree :=
  (Tree.plain? source).getD (.recovered source)

/-- The module that a source text holds. -/
def parse : SourceParser :=
  parseWith Tree.ofSource

end ElmAssist.Elm
