/-
  Composed text.

  The same text may be written with letters and marks apart, or with characters that
  hold both.  `composed` is the one form that stands for all of them: letters are
  taken apart from their marks (`decompose`), the marks of each letter are put in the
  order of their classes (`reorder`), and what can be joined is joined again
  (`compose`).  Hangul syllables are joined from their parts by arithmetic.
-/
import ElmAssist.Text.Combining

namespace ElmAssist.Text

/-! ## Pairs -/

/-- The class of a character: `0` unless it is a mark that is put on a letter. -/
def combiningClass (c : Char) : Nat :=
  ((combiningClasses.find? fun (_, table) => table.contains c).map (·.1)).getD 0

/-- The characters of a list, two at a time. -/
def pairs : List Char → List (Char × Char)
  | a :: b :: rest => (a, b) :: pairs rest
  | _ => []

/-- Characters that hold two others, with these. -/
def joinedPairs : List (Char × Char × Char) :=
  joinedForms.flatMap fun (second, forms) =>
    (pairs forms.toList).map fun (first, whole) => (whole, first, Char.ofNat second)

/-! ## Hangul -/

/-- The number of vowels. -/
def vowelCount : Nat := 21

/-- The number of ways to end a syllable, one of which is an open end. -/
def endCount : Nat := 28

/-- The position of a character behind the first one of a kind, if it is one of
    `count` characters of this kind. -/
def offset? (first count : Nat) (c : Char) : Option Nat :=
  if first ≤ c.toNat && c.toNat < first + count then some (c.toNat - first) else none

/-- The position of a Hangul syllable among all of them. -/
def syllable? (c : Char) : Option Nat := offset? 0xAC00 (19 * vowelCount * endCount) c

/-- The parts of a Hangul syllable. -/
def syllableParts (n : Nat) : List Char :=
  let ending := n % endCount
  [Char.ofNat (0x1100 + n / (vowelCount * endCount)),
    Char.ofNat (0x1161 + n / endCount % vowelCount)] ++
    (if ending = 0 then [] else [Char.ofNat (0x11A7 + ending)])

/-- The Hangul syllable that begins with one character and goes on with another. -/
def syllableOf? (a b : Char) : Option Char :=
  match offset? 0x1100 19 a, offset? 0x1161 vowelCount b with
  | some lead, some vowel => some (Char.ofNat (0xAC00 + (lead * vowelCount + vowel) * endCount))
  | _, _ =>
    match syllable? a, offset? 0x11A8 (endCount - 1) b with
    | some n, some ending =>
      if n % endCount = 0 then some (Char.ofNat (0xAC00 + n + ending + 1)) else none
    | _, _ => none

/-! ## Taking apart -/

/-- The two characters that a character holds. -/
def split? (c : Char) : Option (Char × Char) :=
  joinedPairs.lookup c

/-- A character without its marks, and these behind it.  At most `depth` marks are
    taken off. -/
def decomposeChar : Nat → Char → List Char
  | 0, c => [c]
  | depth + 1, c =>
    match split? c with
    | some (first, mark) => decomposeChar depth first ++ [mark]
    | none => [c]

/-- A text with letters and marks apart; no character holds more than four marks. -/
def decompose (cs : List Char) : List Char :=
  cs.flatMap fun c =>
    if isAscii c then [c]
    else match syllable? c with
      | some n => syllableParts n
      | none => decomposeChar 4 c

/-- Puts a mark in front of ordered marks, behind those of lower classes. -/
def settle (c : Char) : List Char → List Char
  | [] => [c]
  | d :: rest =>
    if 0 < combiningClass d && combiningClass d < combiningClass c then d :: settle c rest
    else c :: d :: rest

/-- A text with the marks of each letter in the order of their classes. -/
def reorder (cs : List Char) : List Char :=
  cs.foldr settle []

/-! ## Joining -/

/-- The character that two neighbours become. -/
def joined? (a b : Char) : Option Char :=
  (syllableOf? a b).or
    ((joinedPairs.find? fun (_, first, second) => first == a && second == b).map (·.1))

/-- Joins the characters that follow a letter to it.  `passed` holds the marks that
    could not be joined, last one first; a mark is joined across marks of lower classes
    only. -/
def composeFrom (letter : Char) (passed : List Char) : List Char → List Char
  | [] => letter :: passed.reverse
  | c :: rest =>
    let blocked := passed.head?.any fun d => combiningClass c ≤ combiningClass d
    match if blocked then none else joined? letter c with
    | some whole => composeFrom whole passed rest
    | none =>
      if combiningClass c = 0 then letter :: (passed.reverse ++ composeFrom c [] rest)
      else composeFrom letter (c :: passed) rest

/-- A text with its letters and marks joined; marks in front of all letters stay. -/
def compose : List Char → List Char
  | [] => []
  | c :: rest => if combiningClass c = 0 then composeFrom c [] rest else c :: compose rest

/-- The form of a text that stands for all ways of writing it. -/
def composed (cs : List Char) : List Char :=
  if cs.all isAscii then cs else compose (reorder (decompose cs))

end ElmAssist.Text
