/-
  Items: headers, imports and declarations.

  A file is cut into chunks, each from a token in the first column up to the next
  such token.  `nodes?` reads one item from each chunk, which has to be used up, and
  puts the comments in front of a chunk in front of its item.  It gives up at the
  first chunk that is no item.

  The header comes first, and imports come before all declarations.
-/
import ElmAssist.Elm.Plain.Phrases

namespace ElmAssist.Elm.Plain

open Reader

/-! ## Exposing lists -/

/-- An entry of an exposing list. -/
def exposedItem : Reader ExposedNode := do
  if ← ahead (·.isLowerName) then return .value (← lower)
  else
    let name ← upper
    if ← ahead (·.isSymbol "(") then
      symbol "("
      symbol ".."
      symbol ")"
      return .type (some name) true
    else return .type (some name) false

/-- An exposing list with its keyword; it is never empty. -/
def exposingList (n : Nat) : Reader (List ExposedNode) := do
  word "exposing"
  symbol "("
  let items ← do
    if ← ahead (·.isSymbol "..") then
      symbol ".."
      pure [ExposedNode.everything]
    else separated "," exposedItem n
  symbol ")"
  return items

/-! ## Header and imports -/

/-- The place of the next token. -/
def nextPlace : Reader Place :=
  fun ts => some ((ts.head?.map (·.place)).getD {}, ts)

/-- A module header. -/
def header (n : Nat) : Reader Node := do
  let start ← nextPlace
  word "module"
  let name ← upperName
  let exposing ← exposingList n
  return .header start false (some name) (some exposing)

/-- An import clause. -/
def importClause (n : Nat) : Reader Node := do
  word "import"
  let name ← upperName
  let shortName ← do
    if ← ahead (·.isWord "as") then
      word "as"
      some <$> upper
    else pure none
  let exposing ← do
    if ← ahead (·.isWord "exposing") then some <$> exposingList n else pure none
  return .importClause false (some name) shortName exposing

/-! ## Declarations -/

/-- A variant of a custom type. -/
def variant (n : Nat) : Reader (Option String) := do
  let name ← upper
  let _ ← whileAhead (fun t => startsSingleType t && t.isSpaced) (singleType (type n)) n
  return some name

/-- A custom type or a type alias. -/
def typeDeclaration (n : Nat) : Reader Node := do
  word "type"
  let isAlias ← ahead (·.isWord "alias")
  if isAlias then word "alias"
  let name ← upper
  let _ ← whileAhead (·.isLowerName) lower n
  symbol "="
  if isAlias then
    type n
    return .typeAlias false (some name)
  else
    let variants ← separated "|" (variant n) n
    return .customType false (some name) variants

/-- Whether a token is a parameter of a function. -/
def isParameter (t : Token) : Bool :=
  t.isLowerName || t.isSymbol "_"

/-- An annotation or a function. -/
def valueDeclaration (n : Nat) : Reader Node := do
  let name ← lower
  if ← ahead (·.isSymbol ":") then
    symbol ":"
    let text ← sourceOf (type n)
    return .signature false (some name) (some text)
  else
    let _ ← whileAhead isParameter (token isParameter) n
    symbol "="
    expression n
    return .value false (some name)

/-! ## Files -/

/-- Which items may still come. -/
inductive Phase where
  /-- Nothing has been read. -/
  | start
  /-- Imports may follow. -/
  | imports
  /-- Only declarations may follow. -/
  | declarations
  deriving DecidableEq, Repr

/-- The phase behind an item. -/
def Phase.after : Node → Phase
  | .header .. | .importClause .. => .imports
  | _ => .declarations

/-- One item of a file. -/
def item (phase : Phase) (n : Nat) : Reader Node := do
  if ← ahead (fun t => t.isWord "module" && phase == .start) then header n
  else if ← ahead (fun t => t.isWord "import" && phase != .declarations) then importClause n
  else if ← ahead (·.isWord "type") then typeDeclaration n
  else valueDeclaration n

/-- The tokens of a file, cut in front of each token in the first column. -/
def chunks : List Token → List (List Token)
  | [] => []
  | t :: rest =>
    match chunks rest with
    | (u :: others) :: more =>
      if u.place.column = 0 then [t] :: (u :: others) :: more else (t :: u :: others) :: more
    | _ => [[t]]

/-- The item of a chunk, with the comments in front of it.  There are none inside. -/
def chunkNodes? (phase : Phase) (n : Nat) (chunk : List Token) : Option (Node × List Node) :=
  match chunk with
  | [] => none
  | t :: rest =>
    if t.place.column = 0 && rest.all (·.comments.isEmpty) then
      match item phase n chunk with
      | some (node, []) => some (node, t.comments.map Node.comment ++ [node])
      | _ => none
    else none

/-- The nodes of the chunks of a file, if all of them can be read. -/
def nodes? (n : Nat) (phase : Phase) : List (List Token) → Option (List Node)
  | [] => some []
  | chunk :: rest => do
    let (node, nodes) ← chunkNodes? phase n chunk
    return nodes ++ (← nodes? n (Phase.after node) rest)

end Plain

/-- The syntax tree of a plainly written file, if a source text is one: it has only
    common lexemes, its comments stand alone, and all its chunks are items. -/
def Tree.plain? (source : String) : Option Tree :=
  let ls := Plain.lexemes source.toList
  if ls.all (fun l => l.isCommon && l.kind != .stray) && Plain.commentsAlone true ls then
    let (tokens, comments) := Plain.tokensOf [] {} ls
    (Plain.nodes? (2 * tokens.length) .start (Plain.chunks tokens)).map fun nodes =>
      ⟨nodes ++ comments.map Node.comment, false⟩
  else none

end ElmAssist.Elm
