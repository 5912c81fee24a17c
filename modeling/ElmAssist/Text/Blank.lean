/-
  Blank characters and words.

  `isBlank` is the Unicode property `White_Space`.  `words` cuts a text into its
  maximal blank-free pieces, `collapse` joins them again with single spaces, and
  `trim` removes the blanks at both ends.
-/

namespace ElmAssist.Text

/-- A character with the property `White_Space`. -/
def isBlank (c : Char) : Bool :=
  let n := c.toNat
  (0x09 ≤ n && n ≤ 0x0D) || n == 0x20 || n == 0x85 || n == 0xA0 || n == 0x1680 ||
    (0x2000 ≤ n && n ≤ 0x200A) || n == 0x2028 || n == 0x2029 || n == 0x202F || n == 0x205F ||
    n == 0x3000

/-! ## Words -/

/-- The words of a text, where `word` holds the characters of the word being
    read, last one first. -/
def wordsFrom (word : List Char) : List Char → List (List Char)
  | [] => if word.isEmpty then [] else [word.reverse]
  | c :: rest =>
    if isBlank c then
      if word.isEmpty then wordsFrom [] rest else word.reverse :: wordsFrom [] rest
    else wordsFrom (c :: word) rest

/-- The maximal runs of characters that are not blank, in order. -/
def words (s : String) : List String :=
  (wordsFrom [] s.toList).map String.ofList

/-- The words of a text, with one space between neighbours. -/
def collapse (s : String) : String :=
  " ".intercalate (words s)

/-! ## Trimming -/

/-- Removes from both ends of a list what satisfies `p`. -/
def trimList (p : Char → Bool) (cs : List Char) : List Char :=
  ((cs.dropWhile p).reverse.dropWhile p).reverse

/-- Removes from both ends of a text the characters that satisfy `p`. -/
def trimBy (p : Char → Bool) (s : String) : String :=
  String.ofList (trimList p s.toList)

/-- Removes the blanks at the start of a text. -/
def trimStart (s : String) : String :=
  String.ofList (s.toList.dropWhile isBlank)

/-- Removes the blanks at both ends of a text. -/
def trim (s : String) : String :=
  trimBy isBlank s

/-- Whether a text has no character other than blanks. -/
def isAllBlank (s : String) : Bool :=
  s.toList.all isBlank

end ElmAssist.Text
