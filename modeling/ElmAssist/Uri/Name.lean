/-
  Host names.

  A host name may be written with any letters.  `Name.ofChars?` brings it into a
  normal form: capitals and other variants become the characters that they stand for,
  invisible characters are left out, letters and their marks are joined, and labels
  in Punycode are decoded.  It fails if the name holds a character that no host name
  may hold, if a label starts with a combining mark or is too long, if a joiner stands
  where nothing can be joined, or if the directions of writing would make the name
  ambiguous.
-/
import ElmAssist.Text.Normal
import ElmAssist.Uri.NameTable
import ElmAssist.Uri.Punycode
import ElmAssist.Uri.Variant

namespace ElmAssist.Uri.Name

/-! ## Characters -/

/-- What a character stands for; `none` for one that stands in no host name. -/
def fold? (c : Char) : Option (List Char) :=
  if Text.isAscii c then some [c.toLower]
  else if ignored.contains c then some []
  else if disallowed.contains c then none
  else some ((Variant.target? c).getD [c])

/-- Whether a text has only one way of writing. -/
def isStable (cs : List Char) : Bool :=
  cs.all (fun c => fold? c == some [c]) && Text.composed cs == cs

/-- The ASCII characters that no host name holds. -/
def isForbidden (c : Char) : Bool :=
  c.toNat ≤ 0x20 || c.toNat == 0x7F || "%#/:<>?@[\\]^|".toList.contains c

/-! ## Joiners -/

/-- The character that keeps its neighbours from joining. -/
def nonJoiner : Char := Char.ofNat 0x200C

/-- The character that joins its neighbours. -/
def joiner : Char := Char.ofNat 0x200D

/-- The class of the viramas: marks that take the vowel off a letter. -/
def viramaClass : Nat := 9

/-- Whether each joiner follows a virama, or else keeps apart two letters that would
    join; `before` is what stands in front, last character first. -/
def joinersFit (before : List Char) : List Char → Bool
  | [] => true
  | c :: rest =>
    let afterVirama := before.head?.any fun d => Text.combiningClass d = viramaClass
    let between :=
      ((before.dropWhile transparent.contains).head?.any joinsAfter.contains) &&
        ((rest.dropWhile transparent.contains).head?.any joinsBefore.contains)
    (if c == nonJoiner then afterVirama || between
      else if c == joiner then afterVirama else true) &&
      joinersFit (c :: before) rest

/-! ## Direction -/

/-- How a character takes part in the direction of writing. -/
inductive Direction where
  /-- A letter that is written from left to right. -/
  | left
  /-- A letter that is written from right to left. -/
  | right
  /-- A digit that belongs to letters from right to left. -/
  | arabicNumber
  /-- A digit that is written from left to right everywhere. -/
  | europeanNumber
  /-- A mark on the character before it. -/
  | mark
  /-- A character without direction. -/
  | neutral
  deriving DecidableEq

/-- The direction of a character. -/
def directionOf (c : Char) : Direction :=
  if Text.isAscii c then
    if c.isAlpha then .left else if c.isDigit then .europeanNumber else .neutral
  else if rightToLeft.contains c then .right
  else if arabicNumbers.contains c then .arabicNumber
  else if europeanNumbers.contains c then .europeanNumber
  else if nonspacing.contains c then .mark
  else if neutral.contains c then .neutral
  else .left

/-- Whether a label can be read in one direction only.  It starts with a letter, has
    no letters of the other direction, and ends with a letter or digit of its own,
    marks apart; the two kinds of digits are not mixed from right to left. -/
def isDirected (label : List Char) : Bool :=
  let ds := label.map directionOf
  let last := (ds.reverse.dropWhile (· = .mark)).head?
  match ds.head? with
  | none => true
  | some .left =>
    ds.all (fun d => d != .right && d != .arabicNumber) &&
      (last == some .left || last == some .europeanNumber)
  | some .right =>
    !ds.contains .left && !(ds.contains .arabicNumber && ds.contains .europeanNumber) &&
      (last == some .right || last == some .arabicNumber || last == some .europeanNumber)
  | some _ => false

/-- Whether a label has letters or digits from right to left. -/
def hasRight (label : List Char) : Bool :=
  label.any fun c => directionOf c = .right || directionOf c = .arabicNumber

/-! ## Names -/

/-- The beginning of a label in Punycode. -/
def encodedMark : List Char := ['x', 'n', '-', '-']

/-- The greatest length of a label in Punycode, its beginning apart. -/
def encodedLimit : Nat := 2000

/-- The greatest length of a label that has to be encoded. -/
def plainLimit : Nat := 1000

/-- A label with its Punycode decoded.  What is decoded needs this form: it has
    characters outside ASCII, and there is no other way of writing it. -/
def decodeLabel? (label : List Char) : Option (List Char) :=
  if encodedMark.isPrefixOf label then
    if encodedLimit < label.length - encodedMark.length then none
    else (Punycode.decode? (label.drop encodedMark.length)).filter fun cs =>
      cs.any (!Text.isAscii ·) && isStable cs
  else if label.any (!Text.isAscii ·) && plainLimit < label.length then none
  else some label

/-- Whether a label holds only what may stand there. -/
def isLabel (label : List Char) : Bool :=
  !label.any isForbidden && !label.head?.any marks.contains && joinersFit [] label

/-- The host name that characters spell. -/
def ofChars? (cs : List Char) : Option (List Char) := do
  let folded ← cs.mapM fold?
  let labels ← (Text.splitList '.' (Text.composed folded.flatten)).mapM decodeLabel?
  guard (labels.all isLabel && (!labels.any hasRight || labels.all isDirected))
  return Text.joinList '.' labels

end ElmAssist.Uri.Name
