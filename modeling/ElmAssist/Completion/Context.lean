/-
  What a cursor position asks for.

  The token under the cursor is found twice: once with a broad class of
  characters that also covers operators (`isWordChar`), to tell a position inside
  an operator from one inside a name, and once with the characters of a qualified
  name only (`isIdentifierChar`).  That second token, cut at its last dot, is
  classified by `classify`:

  * a qualifier in front of the dot, or a capital, asks for a module (`.qualified`);
  * a bare word asks for a value (`.value`);
  * on a line `import Name` the token is part of a module name (`.importing`).

  `wordRange` returns the maximal run of characters that touches the cursor.
-/
import ElmAssist.Text.Alphanumeric
import ElmAssist.Text.Blank
import ElmAssist.Text.Lines
import ElmAssist.Text.Split
import ElmAssist.Text.Utf16

namespace ElmAssist.Completion

open Text

/-! ## Characters of words -/

/-- The characters of operators. -/
def operatorChars : List Char :=
  ['+', '-', '/', '*', '=', '.', '$', '<', '>', ':', '&', '|', '^', '?', '%', '#', '@', '~', '!']

/-- A letter, digit or underscore. -/
def isNameChar (c : Char) : Bool :=
  isAlphanumeric c || c == '_'

/-- A character of a qualified name: a name character or the dot. -/
def isIdentifierChar (c : Char) : Bool :=
  isNameChar c || c == '.'

/-- A character of a name or of an operator. -/
def isWordChar (c : Char) : Bool :=
  isIdentifierChar c || operatorChars.contains c

/-! ## The word under the cursor -/

/-- The columns `start ≤ i < stop` of a line. -/
structure ColumnRange where
  start : Nat
  stop : Nat
  deriving DecidableEq, Repr

/-- The maximal run of characters satisfying `p` that contains the column or
    ends at it, if there is one. -/
def wordRange (p : Char → Bool) (line : List Char) (column : Nat) : Option ColumnRange :=
  if line.length < column then none
  else
    let before := ((line.take column).reverse.takeWhile p).length
    let after := ((line.drop column).takeWhile p).length
    if before + after = 0 then none else some ⟨column - before, column + after⟩

/-- The characters of a line at the columns of a range. -/
def ColumnRange.slice (r : ColumnRange) (line : List Char) : List Char :=
  (line.drop r.start).take (r.stop - r.start)

/-! ## Contexts -/

/-- The kind of completion that a position asks for. -/
inductive Context where
  /-- A bare lower-case word, such as `ma`. -/
  | value (text : String)
  /-- A qualified or capitalised word, such as `List.ma` or `Li`. -/
  | qualified (qualifier text : String)
  /-- The module name of an import clause, such as `import Html.At`. -/
  | importing (typed : String)
  deriving DecidableEq, Repr

/-- A token cut at its last dot; without a dot the qualifier is empty. -/
def splitQualified (token : String) : String × String :=
  (cutLast '.' token).getD ("", token)

/-- The context of an identifier token outside import clauses. -/
def classify (token : String) : Context :=
  let (qualifier, word) := splitQualified token
  if !qualifier.isEmpty || isCapitalized word then .qualified qualifier word else .value word

/-- A cursor position: a line number and a column in UTF-16 units. -/
structure Position where
  line : Nat
  character : Nat
  deriving DecidableEq, Repr

/-- The line of a position without its line feed or carriage return, and the
    column of the position in characters. -/
def lineAndColumn (text : String) (pos : Position) : Option (List Char × Nat) := do
  let line ← (lines text.toList)[pos.line]?
  guard (pos.character ≤ units line)
  return (withoutBreak line, columnOfUnits line pos.character)

/-- Whether a column of a line lies in the module name of an import clause that
    has nothing behind the name. -/
def inImportedName (line : List Char) (column : Nat) : Bool :=
  match "import".toList.isPrefixOf? line with
  | none => false
  | some rest =>
    rest.head?.any isBlank && "import".length < column && !(rest.dropWhile isBlank).any isBlank

/-- The context at a column of a line, or `none` when nothing is to be
    completed there: outside words, inside an operator, or right behind one. -/
def contextInLine (line : List Char) (column : Nat) : Option Context := do
  let word ← wordRange isWordChar line column
  guard ((word.slice line).any isNameChar)
  let range ← wordRange isIdentifierChar line column
  let token := String.ofList (range.slice line)
  return if inImportedName line column then .importing token else classify token

/-- The context at a position of a text. -/
def contextAt (text : String) (pos : Position) : Option Context := do
  let (line, column) ← lineAndColumn text pos
  contextInLine line column

end ElmAssist.Completion
