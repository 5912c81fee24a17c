/-
  Layout: the tokens that the indentation of a text stands for.

  A block opens at the column of its first token.  A line that starts at the column
  of the innermost block ends a declaration or branch there, and a line that starts
  further left ends the block.  `in` ends the block of its `let` wherever it
  stands, and a bracket or comma behind a block on the same line ends it too.  One
  line can end several blocks, so those that are still to be reported are kept as
  `pending`.

  A comment may start a line without ending anything: line comments are looked
  past, and so are block comments to the left of the innermost block.
-/
import ElmAssist.Elm.Symbols
import ElmAssist.Parsing.Parser

namespace ElmAssist.Elm

open Parsing

/-- An end that a line start stands for. -/
inductive Layout.End where
  /-- The end of a declaration or branch. -/
  | declaration
  /-- The end of a block. -/
  | block
  deriving DecidableEq, Repr

/-- The layout of a text up to a position. -/
structure Layout where
  /-- The ends still to be reported. -/
  pending : List Layout.End := []
  /-- The indentation of the last line. -/
  indent : Nat := 0
  /-- The columns of the open blocks, innermost first, modulo 256. -/
  columns : List Nat := []
  deriving DecidableEq, Repr

namespace Layout

/-! ## Externals -/

/-- The tokens that depend on the layout or on what follows them. -/
inductive External where
  | endDeclaration
  | openBlock
  | endBlock
  | minus
  | shaderText
  | commentText
  deriving DecidableEq, Repr

/-- The index of an external in the grammar. -/
def External.index : External → Nat
  | endDeclaration => 0
  | openBlock => 1
  | endBlock => 2
  | minus => 3
  | shaderText => 4
  | commentText => 5

/-- The number of externals. -/
def externalCount : Nat := 6

/-- The external that reports an end. -/
def End.external : End → External
  | declaration => .endDeclaration
  | block => .endBlock

/-- The greatest number of blocks that may be open. -/
def depthLimit : Nat := 255

/-- The column of the innermost block. -/
def column (l : Layout) : Nat :=
  l.columns.headD 0

/-! ## Blanks -/

/-- What stands between a position and the next token. -/
structure Lead where
  /-- Where the token starts. -/
  position : Nat
  /-- Where the token starts for its node. -/
  start : Nat
  /-- Whether a line has started. -/
  newLine : Bool := false
  /-- Whether a line comment has been passed. -/
  comment : Bool := false
  indent : Nat

/-- What the blanks in front of a token lead to. -/
inductive LeadOutcome where
  /-- A dash that is no such sign. -/
  | refuse (lead : Lead)
  /-- A minus sign that negates. -/
  | minus (lead : Lead)
  /-- The end of the text. -/
  | finish (lead : Lead)
  /-- Something that has to be looked at. -/
  | text (lead : Lead)

/-- The first position at or behind one where the character is none of a class, or
    the text ends. -/
def skipWhile (source : Source) (p : Char → Bool) : Nat → Nat → Nat
  | 0, i => i
  | fuel + 1, i =>
    if !source.isEnd i && p (source.peek i) then skipWhile source p fuel (i + 1) else i

/-- Whether a minus sign in front of a character negates. -/
def isNegated (c : Char) : Bool :=
  Text.isLetter .twelve c || c == '('

/-- Passes blanks and line comments.  Inside a block comment dashes are text. -/
def passLead (source : Source) (inComment wantsMinus : Bool) : Nat → Lead → LeadOutcome
  | 0, lead => .text lead
  | fuel + 1, lead =>
    let i := lead.position
    if source.isEnd i then .finish lead
    else
      let c := source.peek i
      if c == ' ' || c == '\r' then
        passLead source inComment wantsMinus fuel { lead with position := i + 1, start := i + 1 }
      else if c == '\n' then
        let next := skipWhile source (· == ' ') source.size (i + 1)
        passLead source inComment wantsMinus fuel
          { lead with
            position := next, start := next, newLine := true, indent := (source.spot next).indent }
      else if c == '-' && !inComment then
        let d := source.peek (i + 1)
        if wantsMinus && isNegated d then
          if lead.comment then .refuse lead else .minus { lead with position := i + 1 }
        else if d == '-' && lead.newLine then
          let next := skipWhile source (· != '\n') source.size (i + 2)
          passLead source inComment wantsMinus fuel { lead with position := next, comment := true }
        else .refuse lead
      else .text lead

/-! ## Comments and shaders -/

/-- Passes nested block comments from inside `depth` of them, up to their end. -/
def passNested (source : Source) : Nat → Nat → Nat → Nat
  | 0, _, i => i
  | fuel + 1, depth, i =>
    let c := source.peek i
    let d := source.peek (i + 1)
    if c == '\x00' then i
    else if c == '\x7b' && d == '-' then passNested source fuel (depth + 1) (i + 2)
    else if c == '-' && d == '\x7d' then
      match depth with
      | 0 | 1 => i + 2
      | depth + 1 => passNested source fuel depth (i + 2)
    else passNested source fuel depth (i + 1)

/-- Where the content of a block comment ends; `mark` is the last place where it
    could. -/
def passComment (source : Source) : Nat → Nat → Nat → Nat
  | 0, _, mark => mark
  | fuel + 1, i, mark =>
    let c := source.peek i
    if c == '\x00' then mark
    else if c == '-' then
      if source.peek (i + 1) == '\x7d' then i else passComment source fuel (i + 1) i
    else if c == '\x7b' then
      if source.peek (i + 1) == '-' then
        let j := passNested source fuel 1 (i + 2)
        passComment source fuel j j
      else passComment source fuel (i + 1) i
    else passComment source fuel (i + 1) mark

/-- Where the content of a shader ends. -/
def passShader (source : Source) : Nat → Nat → Nat
  | 0, i => i
  | fuel + 1, i =>
    let c := source.peek i
    if c == '\x00' then i
    else if c == '|' && source.peek (i + 1) == ']' then i
    else passShader source fuel (i + 1)

/-! ## Line starts -/

/-- Whether `in` stands at a position. -/
def startsIn (source : Source) (i : Nat) : Bool :=
  source.peek i == 'i' && source.peek (i + 1) == 'n' &&
    (source.isEnd (i + 2) || source.peek (i + 2) == ' ' || source.peek (i + 2) == '\r' ||
      source.peek (i + 2) == '\n')

/-- Whether a block comment opens at a position. -/
def startsBlockComment (source : Source) (i : Nat) : Bool :=
  source.peek i == '\x7b' && source.peek (i + 1) == '-'

/-- Whether a comment opens at a position, where one dash may stand in front of a
    brace. -/
def startsComment (source : Source) (i : Nat) : Bool :=
  startsBlockComment source i ||
    (source.peek i == '-' && (source.peek (i + 1) == '-' || startsBlockComment source (i + 1)))

/-- Whether a character ends a block in front of it. -/
def isBracket (c : Char) : Bool :=
  c == ')' || c == ',' || c == '\x7d'

/-- Passes block comments, with the blanks and line comments behind them.  Returns
    where they end and the indentation of the last line. -/
def passComments (source : Source) : Nat → Nat → Nat → Nat × Nat
  | 0, i, indent => (i, indent)
  | fuel + 1, i, indent =>
    if startsBlockComment source i then
      let next := passNested source source.size 1 (i + 2)
      match passLead source false false (source.size + 1)
          { position := next, start := next, newLine := true, indent } with
      | .refuse lead | .minus lead | .finish lead | .text lead =>
        passComments source fuel lead.position lead.indent
    else (i, indent)

/-- The ends that a line start stands for, and the blocks that stay open.  With
    `isIn`, the line starts with `in`, which ends a block in any case; `first` tells
    whether no end has been found yet. -/
def lineEnds (indent : Nat) (comment isIn : Bool) : List Nat → (first : Bool) → List End × List Nat
  | [], first =>
    if isIn && (first || indent == 0) then ([.block], [])
    else if indent == 0 && !comment then ([.declaration], [])
    else ([], [])
  | column :: columns, first =>
    if indent < column then
      let (ends, columns) := lineEnds indent comment isIn columns false
      (.block :: ends, columns)
    else if isIn && (first || indent == column) then ([.block], columns)
    else if indent == column && !comment then ([.declaration], column :: columns)
    else ([], column :: columns)

/-- How far a line start that does not end a block is looked at. -/
def lookedUpTo (source : Source) (i : Nat) : Nat :=
  let j := if source.peek i == '-' then i + 1 else i
  if source.peek j == '\x7b' then j + 1 else j

/-! ## Recognition -/

/-- An external with its place and the layout behind it. -/
def found (e : External) (start stop : Nat) (l : Layout) : Option (Scanned (Option Layout)) × Nat :=
  (some ⟨e.index, start, stop, some l⟩, l.indent)

/-- Recognises the end of a block or declaration, or a shader, behind the blanks that
    `lead` describes.  The text has been looked at up to `seen`. -/
def scanEnd (source : Source) (valid : External → Bool) (position : Nat) (columns : List Nat)
    (lead : Lead) (seen : Nat) (isIn : Bool) : Option (Scanned (Option Layout)) × Nat :=
  let atComment := lead.newLine && startsBlockComment source seen &&
    lead.indent < columns.headD 0
  let (seen, indent) :=
    if atComment then passComments source (source.size + 1) seen lead.indent
    else (seen, lead.indent)
  let isIn := isIn || (atComment && valid .endBlock && startsIn source seen)
  let (ends, open') :=
    if lead.newLine then lineEnds indent (startsComment source seen) isIn columns true
    else ([], columns)
  let l : Layout := ⟨[], indent, open'⟩
  let atColumn := lead.newLine && open'.headD 0 == indent && !isIn
  let seen := if atColumn then lookedUpTo source seen else seen
  match ends.head?.filter fun e => valid e.external with
  | some e => found e.external lead.start position { l with pending := ends.tail }
  | none =>
    let l := { l with pending := ends }
    if valid .endBlock && lead.newLine && source.isEnd seen then
      found .endBlock lead.start position l
    else if valid .endBlock && isBracket (source.peek seen) then
      found .endBlock lead.start position { l with columns := open'.tail }
    else if valid .shaderText && !lead.comment then
      found .shaderText lead.start (passShader source (source.size + 1) seen) l
    else (none, indent)

/-- Recognises an external behind the blanks that `lead` describes; `position` is in
    front of them. -/
def scanText (source : Source) (valid : External → Bool) (position : Nat) (columns : List Nat)
    (lead : Lead) : Option (Scanned (Option Layout)) × Nat :=
  let i := lead.position
  let l : Layout := ⟨[], lead.indent, columns⟩
  let isIn := valid .endBlock && startsIn source i
  -- where the text has been looked at up to
  let seen :=
    if valid .endBlock && source.peek i == 'i' then
      if source.peek (i + 1) == 'n' then i + 2 else i + 1
    else i
  if isIn && !lead.newLine then
    found .endBlock lead.start position { l with columns := columns.tail }
  else if valid .openBlock && !source.isEnd seen then
    if depthLimit ≤ columns.length then (none, lead.indent)
    else
      found .openBlock lead.start position
        { l with columns := (source.spot seen).indent % 256 :: columns }
  else if valid .commentText then
    let stop := passComment source (source.size + 1) seen seen
    found .commentText (min lead.start stop) stop l
  else scanEnd source valid position columns lead seen isIn

/-- Recognises one of the valid externals at a position.  Where all of them are
    valid the parser is looking for a way on, and layout means nothing. -/
def scan (source : Source) (memory : Nat) (layout : Option Layout) (valid : Nat → Bool)
    (position : Nat) : Option (Scanned (Option Layout)) × Nat :=
  let l := layout.getD { indent := memory }
  let isValid := fun (e : External) => valid e.index
  if (List.range externalCount).all valid then (none, l.indent)
  else
    match l.pending with
    | e :: pending =>
      if isValid e.external then found e.external position position { l with pending }
      else scanAfter l isValid
    | [] => scanAfter l isValid
where
  /-- Recognises an external where no end is pending. -/
  scanAfter (l : Layout) (isValid : External → Bool) : Option (Scanned (Option Layout)) × Nat :=
    let start := if position == 0 && (source.peek 0).toNat == 0xFEFF then 1 else position
    let lead : Lead := { position := start, start, indent := l.indent }
    match passLead source (isValid .commentText) (isValid .minus) (source.size + 1) lead with
    | .refuse lead => (none, lead.indent)
    | .minus lead =>
      found .minus lead.start lead.position ⟨[], lead.indent, l.columns⟩
    | .finish lead =>
      let l : Layout := ⟨[], lead.indent, l.columns⟩
      if isValid .endBlock then found .endBlock lead.start start l
      else if isValid .endDeclaration then found .endDeclaration lead.start start l
      else scanText source isValid start l.columns lead
    | .text lead => scanText source isValid start l.columns lead

end Layout

end ElmAssist.Elm
