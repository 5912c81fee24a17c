/-
  Segments of paths.

  The path of a URI is a list of segments.  `segmentsOf` resolves `.` and `..` in it
  and escapes what may not stand for itself.  A segment `..` never goes up from a
  drive.

  `fileSegments` does so for the path of a file, which may start with a drive.  There
  a drive is written with a colon, and a tab or line break behind it separates it
  from the rest of its segment; everywhere else these characters do not count
  (`signsOf`).
-/
import ElmAssist.Text.Split
import ElmAssist.Uri.Escape

namespace ElmAssist.Uri

/-- A character that separates the segments of a path.  In the well-known schemes a
    backslash does so, too. -/
def isSeparator (wellKnown : Bool) (c : Char) : Bool :=
  c == '/' || (wellKnown && c == '\\')

/-- A list cut in front of the first element that satisfies `p`. -/
def cut {α : Type} (p : α → Bool) (xs : List α) : List α × List α :=
  (xs.takeWhile (!p ·), xs.dropWhile (!p ·))

/-! ## Segments -/

/-- Whether a segment is `.`, possibly escaped. -/
def isHere (segment : String) : Bool :=
  segment.toLower == "." || segment.toLower == "%2e"

/-- Whether a segment is `..`, possibly escaped. -/
def isUp (segment : String) : Bool :=
  ["..", ".%2e", "%2e.", "%2e%2e"].contains segment.toLower

/-- Whether a segment is a drive: a letter, and a colon or a bar. -/
def isDrive (segment : List Char) : Bool :=
  match segment with
  | [c, d] => c.isAlpha && (d == ':' || d == '|')
  | _ => false

/-- Whether a segment is a drive, or starts with one and a backslash. -/
def startsWithDrive (segment : List Char) : Bool :=
  isDrive (segment.take 2) && (segment.drop 2).head?.all (· == '\\')

/-- The segments without the last one, given last one first.  A drive stays. -/
def popSegment (kept : List String) : List String :=
  match kept with
  | [] => []
  | last :: rest => if startsWithDrive last.toList then kept else rest

/-- Takes one segment into account, given those kept so far, last one first. -/
def pushSegment (kept : List String) (segment : List Char) (final : Bool) : List String :=
  let text := String.ofList (escape escapedInPath segment)
  if isUp text then
    let popped := popSegment kept
    if final then "" :: popped else popped
  else if isHere text then if final then "" :: kept else kept
  else text :: kept

/-- The segments of a path without its leading slash, `.` and `..` resolved. -/
def segmentsFrom (kept : List String) : List (List Char) → List String
  | [] => kept.reverse
  | [segment] => (pushSegment kept segment true).reverse
  | segment :: rest => segmentsFrom (pushSegment kept segment false) rest

/-- The segments of a path. -/
def segmentsOf (wellKnown : Bool) (path : List Char) : List String :=
  let path := path.map fun c => if isSeparator wellKnown c then '/' else c
  segmentsFrom [] (Text.splitList '/' (if path.head? == some '/' then path.tail else path))

/-! ## Signs -/

/-- A character of a URI.  `broken` tells whether tabs or line breaks stand in front
    of it. -/
structure Sign where
  char : Char
  broken : Bool
  deriving DecidableEq, Repr

/-- Whether a sign separates the segments of the path of a file. -/
def Sign.separates (s : Sign) : Bool :=
  isSeparator true s.char

/-- The characters of signs. -/
def charsOf (signs : List Sign) : List Char :=
  signs.map (·.char)

/-- The signs of a text; `broken` is for the first one. -/
def signsFrom (broken : Bool) : List Char → List Sign
  | [] => []
  | c :: rest =>
    if c == '\t' || c == '\n' || c == '\r' then signsFrom true rest
    else ⟨c, broken⟩ :: signsFrom false rest

/-- The signs of a text without the blanks and controls around it. -/
def signsOf (cs : List Char) : List Sign :=
  let blank := fun (c : Char) => c.toNat ≤ 0x20
  signsFrom false ((cs.dropWhile blank).reverse.dropWhile blank).reverse

/-! ## Paths of files -/

/-- The segments of the path of a file that are kept so far, last one first, and
    whether the path starts at a drive. -/
structure FileRoute where
  kept : List String
  onDrive : Bool

/-- Takes one segment into account.  The first segment may be a drive, or a drive
    that is broken off from the rest of the segment; such a rest is kept as it is. -/
def FileRoute.push (r : FileRoute) (segment : List Sign) (final : Bool) : FileRoute :=
  let plain := { r with kept := pushSegment r.kept (charsOf segment) final }
  match r.kept, segment with
  | [], [c, d] =>
    if isDrive [c.char, d.char] then ⟨[String.ofList [c.char, ':']], true⟩ else plain
  | [], c :: d :: e :: rest =>
    if c.char.isAlpha && d.char == ':' && e.broken then
      { r with kept := [String.ofList (escape escapedInPath (charsOf (e :: rest))),
          String.ofList [c.char, ':']] }
    else plain
  | _, _ => plain

/-- The pieces of a path between its separators; there is always at least one. -/
def filePieces (path : List Sign) : List (List Sign) :=
  path.foldr (fun s pieces =>
    if s.separates then [] :: pieces
    else match pieces with
      | [] => [[s]]
      | piece :: rest => (s :: piece) :: rest) [[]]

/-- Follows the segments of a path. -/
def FileRoute.follow (r : FileRoute) : List (List Sign) → FileRoute
  | [] => r
  | [segment] => r.push segment true
  | segment :: rest => (r.push segment false).follow rest

/-- Segments without the empty ones in front; where there are no others, one empty
    segment is left. -/
def withoutEmptyStart (segments : List String) : List String :=
  match segments.dropWhile (·.isEmpty) with
  | [] => [""]
  | kept => kept

/-- The segments of the path of a file, and whether it starts at a drive. -/
def fileSegments (path : List Sign) : List String × Bool :=
  let route := FileRoute.follow ⟨[], false⟩ (filePieces path)
  (withoutEmptyStart route.kept.reverse, route.onDrive)

end ElmAssist.Uri
