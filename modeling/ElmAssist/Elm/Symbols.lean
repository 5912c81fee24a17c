/-
  Characters, operators and words of Elm source text.
-/
import ElmAssist.Text.Letter

namespace ElmAssist.Elm

/-- The characters between tokens.  A tabulator is not among them. -/
def isSeparator (c : Char) : Bool :=
  c == ' ' || c == '\n' || c == '\r' || c.toNat == 0xFEFF || c.toNat == 0x2060 || c.toNat == 0x200B

/-- The characters of a name behind its first letter, with the letters of an
    edition of Unicode. -/
def isNamePart (e : Text.Edition) (c : Char) : Bool :=
  Text.isLetter e c || c.isDigit || c == '_'

/-- A hexadecimal digit. -/
def isHexDigit (c : Char) : Bool :=
  c.isDigit || ('a' ≤ c && c ≤ 'f') || ('A' ≤ c && c ≤ 'F')

/-- The binary operators. -/
def operators : List String :=
  ["+", "-", "*", "/", "//", "^", "==", "/=", "<", ">", "<=", ">=", "&&", "||", "++", "<|", "|>",
   "<<", ">>", "::", "</>", "<?>", "|.", "|="]

/-- The words of the expressions that hold others. -/
def compoundWords : List String := ["let", "in", "if", "then", "else"]

/-- The words of the other constructs. -/
def itemWords : List String :=
  ["module", "effect", "where", "import", "as", "exposing", "port", "infix", "left", "right",
   "non", "type", "alias", "case", "of"]

/-- Whether a word has a meaning of its own somewhere. -/
def isSpecialWord (w : String) : Bool :=
  (compoundWords ++ itemWords).contains w

end ElmAssist.Elm
