/-
  Source texts with the places of their characters.

  Positions in a text are counted in characters.  For each position, the number of
  bytes in front of it, its row, and its columns in bytes and characters are kept
  beside the text.
-/

namespace ElmAssist.Parsing

/-- Where a character stands. -/
structure Spot where
  /-- The number of bytes in front of it. -/
  offset : Nat := 0
  /-- The number of line feeds in front of it. -/
  row : Nat := 0
  /-- The number of bytes behind the last line feed. -/
  column : Nat := 0
  /-- The number of characters behind the last line feed. -/
  indent : Nat := 0
  deriving DecidableEq, Repr, Inhabited

/-- The place behind a character. -/
def Spot.behind (s : Spot) (c : Char) : Spot :=
  if c == '\n' then ⟨s.offset + 1, s.row + 1, 0, 0⟩
  else ⟨s.offset + c.utf8Size, s.row, s.column + c.utf8Size, s.indent + 1⟩

/-- A text with the places of its characters, and of its end. -/
structure Source where
  chars : Array Char
  spots : Array Spot

namespace Source

/-- A text as a source. -/
def ofString (text : String) : Source :=
  let chars := text.toList
  let step := fun (spots : Array Spot × Spot) c =>
    let next := spots.2.behind c
    (spots.1.push next, next)
  ⟨chars.toArray, (chars.foldl step (#[{}], {})).1⟩

/-- The number of characters. -/
def size (s : Source) : Nat :=
  s.chars.size

/-- The character at a position; NUL behind the end. -/
def peek (s : Source) (i : Nat) : Char :=
  s.chars.getD i '\x00'

/-- Whether a position is the end of the text. -/
def isEnd (s : Source) (i : Nat) : Bool :=
  s.chars.size ≤ i

/-- The place of a position. -/
def spot (s : Source) (i : Nat) : Spot :=
  s.spots.getD i default

/-- The text between two positions. -/
def slice (s : Source) (start stop : Nat) : String :=
  String.ofList (s.chars.extract start stop).toList

/-- The number of bytes between two positions. -/
def bytesBetween (s : Source) (start stop : Nat) : Nat :=
  (s.spot stop).offset - (s.spot start).offset

/-- The number of line feeds between two positions. -/
def rowsBetween (s : Source) (start stop : Nat) : Nat :=
  (s.spot stop).row - (s.spot start).row

end Source

end ElmAssist.Parsing
