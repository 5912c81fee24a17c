/-
  Completion items.

  An item is what the editor shows for a candidate.  It carries an `Origin`, the
  file in which it was offered and the module that declares it, so that its
  documentation can be looked up when the editor asks for it.
-/
import ElmAssist.Completion.Engine
import ElmAssist.Server.Shape.Params

namespace ElmAssist.Server

open Completion

/-- Where an item comes from. -/
structure Origin where
  /-- The file in which the item was offered. -/
  path : Path
  /-- The module that declares the item. -/
  moduleName : String
  deriving DecidableEq, Repr

namespace Origin

/-- The note that is kept on the item. -/
def toJson (o : Origin) : Json :=
  .object [("path", .string o.path.shown), ("module", .string o.moduleName)]

/-- Reads the note back. -/
def ofJson? (j : Json) : Option Origin := do
  let note ← Shape.origin.read? j
  let path ← (← note.get? "path").string?
  let moduleName ← (← note.get? "module").string?
  return ⟨.ofText path, moduleName⟩

end Origin

/-- A completion item. -/
structure Item where
  label : String
  /-- The number of the item's kind in the protocol. -/
  kind : Option Json := none
  detail : Option String := none
  documentation : Option Json := none
  data : Option Json := none
  /-- The remaining fields, which are passed on unchanged. -/
  others : List (String × Json) := []
  deriving Inhabited

namespace Item

/-- The number of a kind in the protocol. -/
def kindNumber : CandidateKind → Nat
  | .function => 3
  | .constructor => 20
  | .moduleName => 9

/-- The item for a candidate that is offered in a file.  Module names carry no
    origin. -/
def ofCandidate (file : Path) (c : Candidate) : Item :=
  { label := c.label
    kind := some (.ofNat (kindNumber c.kind))
    detail := c.detail
    data := if c.kind = .moduleName then none else some (Origin.toJson ⟨file, c.moduleName⟩) }

/-- The item without a note of its origin. -/
def withoutData (i : Item) : Item :=
  { i with data := none }

/-- The fields that are not kept among the others. -/
def ownFields : List String := ["label", "kind", "detail", "documentation", "data"]

/-- Reads an item. -/
def ofJson? (j : Json) : Option Item := do
  let j ← Shape.item.read? j
  let members ← j.object?
  return {
    label := ← (← j.get? "label").string?
    kind := j.get? "kind"
    detail := (j.get? "detail").bind (·.string?)
    documentation := j.get? "documentation"
    data := j.get? "data"
    others := members.filter fun (key, _) => !ownFields.contains key }

/-- An item as a value; fields that are absent are left out. -/
def toJson (i : Item) : Json :=
  let field := fun (key : String) (value : Option Json) => value.toList.map fun v => (key, v)
  .object ([("label", .string i.label)] ++ field "kind" i.kind ++
    field "detail" (i.detail.map .string) ++ field "documentation" i.documentation ++
    field "data" i.data ++ i.others)

/-- The origin of an item, if it carries one. -/
def origin? (i : Item) : Option Origin :=
  i.data.bind Origin.ofJson?

/-- Documentation as it is shown: the item with its type, the module, and the
    comment. -/
def markdown (doc : ItemDocumentation) (moduleName : String) : String :=
  let signature := match doc.signature with
    | some type => doc.name ++ " : " ++ type
    | none => doc.name
  let comment := match doc.comment with
    | some comment => "\n\n" ++ comment
    | none => ""
  "\x60\x60\x60elm\n" ++ signature ++ "\n\x60\x60\x60\n*" ++ moduleName ++ "*" ++ comment

/-- The item with documentation.  A detail that is there already stays. -/
def document (i : Item) (doc : ItemDocumentation) (moduleName : String) : Item :=
  { i with
    detail := i.detail.or doc.signature
    documentation := some (.object
      [("kind", .string "markdown"), ("value", .string (markdown doc moduleName))]) }

end Item

end ElmAssist.Server
