/-
  Lexemes of plainly written text.

  `lexemes` cuts a text into blanks, comments, names, numbers, strings and symbols.
  Nothing is dropped: the texts of the lexemes concatenate to the source.  What is
  uncommon or faulty is a stray lexeme.

  A dotted name, such as `Html.Attributes` or `List.map`, is one lexeme.
-/
import ElmAssist.Elm.Symbols

namespace ElmAssist.Elm.Plain

/-- The class of a lexeme. -/
inductive Kind where
  /-- A run of spaces and line feeds. -/
  | blank
  /-- A comment from `--` to the end of the line. -/
  | lineComment
  /-- A comment between braces, with none inside. -/
  | blockComment
  /-- A lower-case word. -/
  | lower
  /-- An upper-case name. -/
  | upper
  /-- A dotted upper-case name. -/
  | upperPath
  /-- A lower-case name with a dotted qualifier. -/
  | lowerPath
  /-- A natural number. -/
  | number
  /-- A string on one line, without escapes. -/
  | string
  /-- An operator or a punctuation mark. -/
  | symbol
  /-- Anything else. -/
  | stray
  deriving DecidableEq, Repr

/-- A piece of source text with its class. -/
structure Lexeme where
  kind : Kind
  text : List Char
  deriving DecidableEq, Repr

/-! ## Characters -/

/-- A printable ASCII character or a line feed. -/
def isPlainChar (c : Char) : Bool :=
  c == '\n' || (' ' ≤ c && c ≤ '~')

/-- A space or a line feed. -/
def isBlank (c : Char) : Bool :=
  c == ' ' || c == '\n'

/-- A character of a word behind its first letter. -/
def isWordPart (c : Char) : Bool :=
  c.isAlphanum || c == '_'

/-! ## Lengths of lexemes

Each function gets the text behind the start of a lexeme and returns how many
characters of it belong to the lexeme. -/

/-- The number of characters at the start of a text that satisfy `p`. -/
def run (p : Char → Bool) (cs : List Char) : Nat :=
  (cs.takeWhile p).length

/-- The rest of an upper-case name with the dotted names behind it. -/
def pathTail (kind : Kind) : List Char → Kind × Nat
  | [] => (kind, 0)
  | [c] => if isWordPart c then (kind, 1) else (kind, 0)
  | c :: d :: rest =>
    if isWordPart c then
      let (k, n) := pathTail kind (d :: rest)
      (k, n + 1)
    else if c == '.' && d.isUpper then
      let (k, n) := pathTail .upperPath rest
      (k, n + 2)
    else if c == '.' && d.isLower then (.lowerPath, run isWordPart rest + 2)
    else (kind, 0)

/-- A string up to its closing quote. -/
def stringTail : List Char → Option Nat
  | [] => none
  | c :: rest =>
    if c == '"' then some 1
    else if c == '\n' || c == '\\' then none
    else (stringTail rest).map (· + 1)

/-- A block comment up to its end. -/
def commentTail : List Char → Option Nat
  | [] => none
  | '\x7b' :: '-' :: _ => none
  | '-' :: '\x7d' :: _ => some 2
  | _ :: rest => (commentTail rest).map (· + 1)

/-! ## Symbols -/

/-- The operators and punctuation marks.  A minus sign is not among them, for it may
    also negate. -/
def symbols : List String :=
  operators.filter (· != "-") ++ ["=", "->", ":", "|", ",", "..", "(", ")", "[", "]", "_"]

/-- Whether a text is a symbol. -/
def isSymbol (cs : List Char) : Bool :=
  symbols.contains (String.ofList cs)

/-- The number of characters behind the first of the longest symbol at the start
    of a text, if there is a symbol. -/
def symbolTail (first : Char) (rest : List Char) : Option Nat :=
  [2, 1, 0].find? fun n => (rest.take n).length == n && isSymbol (first :: rest.take n)

/-! ## Lexemes -/

/-- A lexeme of a class if its length is known, and otherwise a stray one. -/
def known (kind : Kind) (length : Option Nat) : Kind × Nat :=
  match length with
  | some n => (kind, n)
  | none => (.stray, 0)

/-- The class of the lexeme at the start of a text, and the number of its
    characters behind the first. -/
def shape (first : Char) (rest : List Char) : Kind × Nat :=
  if isBlank first then (.blank, run isBlank rest)
  else if first.isLower then (.lower, run isWordPart rest)
  else if first.isUpper then pathTail .upper rest
  else if first.isDigit then
    let n := run Char.isDigit rest
    if (rest.drop n).head?.any fun c => isWordPart c || c == '.' then (.stray, 0)
    else (.number, n)
  else if first == '"' then
    if "\"\"".toList.isPrefixOf rest then (.stray, 0) else known .string (stringTail rest)
  else if first == '-' && rest.head? == some '-' then (.lineComment, run (· != '\n') rest)
  else if first == '\x7b' && rest.head? == some '-' then
    known .blockComment ((commentTail rest.tail).map (· + 1))
  else known .symbol (symbolTail first rest)

/-- The lexemes of a text. -/
def lexemes : List Char → List Lexeme
  | [] => []
  | c :: rest =>
    let (kind, n) := shape c rest
    ⟨kind, c :: rest.take n⟩ :: lexemes (rest.drop n)
termination_by cs => cs.length
decreasing_by simp only [List.length_drop, List.length_cons]; omega

/-! ## Comments -/

namespace Lexeme

/-- Whether a lexeme is a comment. -/
def isComment (l : Lexeme) : Bool :=
  l.kind == .blockComment || l.kind == .lineComment

/-- Whether all characters of a lexeme are common ones.  A block comment may hold any but
    NUL, which ends the text of a comment. -/
def isCommon (l : Lexeme) : Bool :=
  l.text.all fun c => isPlainChar c || (l.kind == .blockComment && c.toNat != 0)

/-- Whether a lexeme only separates others. -/
def isTrivia (l : Lexeme) : Bool :=
  l.kind == .blank || l.isComment

end Lexeme

/-- Whether each comment stands alone in its lines, from the first column on;
    `fresh` tells whether the first lexeme starts a line. -/
def commentsAlone (fresh : Bool) : List Lexeme → Bool
  | [] => true
  | l :: rest =>
    (!l.isComment || (fresh && rest.head?.all fun next => next.text.head? == some '\n')) &&
      commentsAlone (l.text.getLast? == some '\n') rest

end ElmAssist.Elm.Plain
