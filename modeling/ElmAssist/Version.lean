/-
  Versions and version ranges.

  A `Version` is `major.minor.patch` with parts below `2 ^ 64`, ordered
  lexicographically.  A `VersionRange` is written `<lower> < v <= <upper>` with
  either comparison at either end.  `compilerVersion` chooses, among the
  compilers that are installed, the greatest one that a package accepts.
-/
import ElmAssist.Text.Blank
import ElmAssist.Text.Split

namespace ElmAssist

/-! ## Versions -/

/-- A version `major.minor.patch`. -/
structure Version where
  major : Nat
  minor : Nat
  patch : Nat
  deriving DecidableEq, Repr

namespace Version

/-- The bound below which a part of a version lies. -/
def partBound : Nat := Nat.pow 2 64

/-- The value of a string of decimal digits, `acc` being that of the digits
    before it. -/
def digitsValue (acc : Nat) : List Char → Option Nat
  | [] => some acc
  | c :: rest => if c.isDigit then digitsValue (10 * acc + (c.toNat - '0'.toNat)) rest else none

/-- Reads one part of a version: an optional `+`, then at least one digit, with
    a value that fits in 64 bits. -/
def part? (cs : List Char) : Option Nat :=
  let digits := if cs.head? = some '+' then cs.tail else cs
  if digits.isEmpty then none
  else (digitsValue 0 digits).filter (· < partBound)

/-- Reads a version: exactly three parts between dots. -/
def parse? (s : String) : Option Version :=
  match Text.splitList '.' s.toList with
  | [a, b, c] => do
    let major ← part? a
    let minor ← part? b
    let patch ← part? c
    return { major, minor, patch }
  | _ => none

/-- Lexicographic comparison. -/
def compare (v w : Version) : Ordering :=
  (Ord.compare v.major w.major).then
    ((Ord.compare v.minor w.minor).then (Ord.compare v.patch w.patch))

/-- `v` is at most `w`. -/
def atMost (v w : Version) : Bool :=
  v.compare w != .gt

/-- `v` is strictly below `w`. -/
def below (v w : Version) : Bool :=
  v.compare w == .lt

end Version

/-! ## Ranges -/

/-- An interval of versions, each end of which may belong to it or not. -/
structure VersionRange where
  lower : Version
  lowerInclusive : Bool
  upper : Version
  upperInclusive : Bool
  deriving DecidableEq, Repr

namespace VersionRange

/-- Reads a comparison: `some true` for `<=`, `some false` for `<`. -/
def inclusive? : String → Option Bool
  | "<=" => some true
  | "<" => some false
  | _ => none

/-- Reads a range from its five words. -/
def parse? (constraint : String) : Option VersionRange :=
  match Text.words constraint with
  | [lower, lowerOp, v, upperOp, upper] => do
    guard (v = "v")
    let lower ← Version.parse? lower
    let lowerInclusive ← inclusive? lowerOp
    let upper ← Version.parse? upper
    let upperInclusive ← inclusive? upperOp
    return { lower, lowerInclusive, upper, upperInclusive }
  | _ => none

/-- Whether a version lies in the range. -/
def contains (r : VersionRange) (v : Version) : Bool :=
  (if r.lowerInclusive then r.lower.atMost v else r.lower.below v) &&
    (if r.upperInclusive then v.atMost r.upper else v.below r.upper)

end VersionRange

/-! ## Choosing a compiler -/

/-- The first word of a constraint, which for a range is its lower bound; a
    constraint without any word is taken as it is. -/
def lowerBound (constraint : String) : String :=
  (Text.words constraint).headD constraint

/-- The name with the greatest version, the last one among equals. -/
def greatest : List (Version × String) → Option (Version × String)
  | [] => none
  | a :: rest =>
    match greatest rest with
    | none => some a
    | some b => if a.1.atMost b.1 then some b else some a

/-- The installed names that denote a version inside a range. -/
def installedWithin (range : VersionRange) (installed : List String) : List (Version × String) :=
  installed.filterMap fun name =>
    ((Version.parse? name).filter range.contains).map fun v => (v, name)

/-- The compiler version whose packages a project reads: the greatest installed
    version in the range, or the lower bound of the constraint when it is no
    range or nothing in it is installed. -/
def compilerVersion (constraint : String) (installed : List String) : String :=
  match VersionRange.parse? constraint with
  | none => lowerBound constraint
  | some range =>
    match greatest (installedWithin range installed) with
    | some (_, name) => name
    | none => lowerBound constraint

end ElmAssist
