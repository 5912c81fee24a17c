/-
  Patterns of tokens.

  A `Pattern` is a regular expression over classes of characters.  It is matched
  by derivatives: `p.behind c` matches what may follow `c` in a text that `p`
  matches, so reading a text is a fold of `behind`, and a prefix is matched where
  what is left `matchesEmpty`.  The constructors `glue` and `either` drop the parts
  that match nothing, which keeps derivatives small.
-/

namespace ElmAssist.Parsing

/-- A regular expression over characters. -/
inductive Pattern where
  /-- Matches nothing. -/
  | nothing
  /-- Matches the empty text. -/
  | empty
  /-- Matches one character of a class. -/
  | char (accepts : Char → Bool)
  /-- Matches one text behind another. -/
  | seq (first second : Pattern)
  /-- Matches what either side matches. -/
  | alt (left right : Pattern)
  /-- Matches one or more texts behind each other. -/
  | many (body : Pattern)

namespace Pattern

/-! ## Building patterns -/

/-- A particular text. -/
def literal (text : String) : Pattern :=
  text.toList.foldr (fun c rest => seq (char (· == c)) rest) empty

/-- A character other than the given ones.  A NUL is never matched. -/
def except (cs : List Char) : Pattern :=
  char fun c => c.toNat != 0 && !cs.contains c

/-- One of the given characters. -/
def oneOf (cs : List Char) : Pattern :=
  char cs.contains

/-- A text that may be missing. -/
def optional (p : Pattern) : Pattern :=
  alt p empty

/-- Any number of texts behind each other. -/
def repeated (p : Pattern) : Pattern :=
  optional (many p)

/-- Texts behind each other. -/
def inOrder (ps : List Pattern) : Pattern :=
  ps.foldr seq empty

/-- One behind the other, without the parts that match nothing or only the empty
    text. -/
def glue : Pattern → Pattern → Pattern
  | nothing, _ => nothing
  | empty, q => q
  | p, q => seq p q

/-- One or the other, without the parts that match nothing. -/
def either : Pattern → Pattern → Pattern
  | nothing, q => q
  | p, nothing => p
  | p, q => alt p q

/-! ## Matching -/

/-- Whether the empty text is matched. -/
def matchesEmpty : Pattern → Bool
  | nothing | char _ => false
  | empty => true
  | seq p q => p.matchesEmpty && q.matchesEmpty
  | alt p q => p.matchesEmpty || q.matchesEmpty
  | many p => p.matchesEmpty

/-- Whether the pattern has been found to match nothing. -/
def isNothing : Pattern → Bool
  | nothing => true
  | _ => false

/-- The pattern of what may follow a character. -/
def behind (c : Char) : Pattern → Pattern
  | nothing | empty => nothing
  | char accepts => if accepts c then empty else nothing
  | seq p q =>
    if p.matchesEmpty then either (glue (p.behind c) q) (q.behind c) else glue (p.behind c) q
  | alt p q => either (p.behind c) (q.behind c)
  | many p => glue (p.behind c) (optional (many p))

end Pattern

end ElmAssist.Parsing
