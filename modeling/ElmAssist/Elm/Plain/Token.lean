/-
  Tokens of plainly written text.

  A token is a lexeme that is neither blank nor comment, together with the blanks
  and comments in front of it and its place in the text.
-/
import ElmAssist.Elm.Node
import ElmAssist.Elm.Plain.Lexeme

namespace ElmAssist.Elm.Plain

/-- The place behind a character. -/
def placeBehind (p : Place) (c : Char) : Place :=
  if c == '\n' then ⟨p.offset + c.utf8Size, p.row + 1, 0⟩
  else ⟨p.offset + c.utf8Size, p.row, p.column + c.utf8Size⟩

/-- The comments among some lexemes. -/
def commentsOf (ls : List Lexeme) : List Comment :=
  (ls.filter (·.isComment)).map fun l => ⟨l.kind == .blockComment, String.ofList l.text⟩

/-- A token. -/
structure Token where
  lexeme : Lexeme
  /-- The blanks and comments in front of it. -/
  lead : List Lexeme
  /-- Where it starts. -/
  place : Place
  deriving DecidableEq, Repr

/-- The tokens of a list of lexemes, and the comments behind the last of them; `lead`
    is what stands in front of the first, and `place` where it starts. -/
def tokensOf (lead : List Lexeme) (place : Place) : List Lexeme → List Token × List Comment
  | [] => ([], commentsOf lead)
  | l :: rest =>
    let behind := l.text.foldl placeBehind place
    if l.isTrivia then tokensOf (lead ++ [l]) behind rest
    else
      let (tokens, comments) := tokensOf [] behind rest
      (⟨l, lead, place⟩ :: tokens, comments)

namespace Token

/-- The text of a token. -/
def text (t : Token) : String :=
  String.ofList t.lexeme.text

/-- The comments in front of a token. -/
def comments (t : Token) : List Comment :=
  commentsOf t.lead

/-- Whether something stands between a token and the one before it. -/
def isSpaced (t : Token) : Bool :=
  !t.lead.isEmpty

/-- A lexeme of a class. -/
def isKind (t : Token) (kind : Kind) : Bool :=
  t.lexeme.kind == kind

/-- A particular symbol. -/
def isSymbol (t : Token) (s : String) : Bool :=
  t.isKind .symbol && t.text == s

/-- A particular word. -/
def isWord (t : Token) (w : String) : Bool :=
  t.isKind .lower && t.text == w

/-- A lower-case name: a word without a meaning of its own. -/
def isLowerName (t : Token) : Bool :=
  t.isKind .lower && !isSpecialWord t.text

/-- A dotted or plain upper-case name. -/
def isUpperName (t : Token) : Bool :=
  t.isKind .upper || t.isKind .upperPath

/-- A binary operator. -/
def isOperator (t : Token) : Bool :=
  t.isKind .symbol && operators.contains t.text

/-- The source text of a list of tokens, without what stands in front of the
    first. -/
def sourceText : List Token → String
  | [] => ""
  | t :: rest =>
    String.ofList (t.lexeme.text ++
      rest.flatMap fun u => u.lead.flatMap (·.text) ++ u.lexeme.text)

end Token

end ElmAssist.Elm.Plain
