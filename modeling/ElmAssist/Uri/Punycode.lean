/-
  Punycode.

  A label of a host name with characters outside ASCII may be written in ASCII:
  first its ASCII characters, then, behind a hyphen, digits in base 36 that tell
  which other characters stand where.  The other characters come in the order of
  their code points; a number of variable length says how many places and code
  points to go on before the next one.  `Punycode.decode?` reads such a label.
-/

namespace ElmAssist.Uri.Punycode

/-- Numbers are less than this. -/
def wordSize : Nat := Nat.pow 2 32

/-- The value of a digit: letters come before numerals. -/
def digitValue? (c : Char) : Option Nat :=
  if 'a' ≤ c && c ≤ 'z' then some (c.toNat - 97)
  else if 'A' ≤ c && c ≤ 'Z' then some (c.toNat - 65)
  else if c.isDigit then some (c.toNat - 48 + 26)
  else none

/-- The digit at a place ends its number if it is less than this. -/
def threshold (place bias : Nat) : Nat :=
  if place ≤ bias then 1 else if bias + 26 ≤ place then 26 else place - bias

/-- Divides a number by 35 until it is at most 455, and counts 36 for each time. -/
def reduce (delta count : Nat) : Nat × Nat :=
  if 455 < delta then reduce (delta / 35) (count + 36) else (delta, count)
termination_by delta
decreasing_by omega

/-- The bias for the next number, given the last one and how many characters there
    are. -/
def adapt (delta size : Nat) (first : Bool) : Nat :=
  let delta := if first then delta / 700 else delta / 2
  let (delta, count) := reduce (delta + delta / size) 0
  count + 36 * delta / (delta + 38)

/-- How far a label has been read. -/
structure State where
  /-- The characters so far. -/
  out : List Char
  /-- The code point reached. -/
  code : Nat := 128
  /-- Where the last character was put, and the part of the next number that has been
      read. -/
  index : Nat := 0
  /-- The index when the number began. -/
  start : Nat := 0
  /-- The bias of the number. -/
  bias : Nat := 72
  /-- The weight of the next digit. -/
  weight : Nat := 1
  /-- The place of the next digit. -/
  place : Nat := 36

/-- Reads one digit. -/
def State.step? (s : State) (c : Char) : Option State := do
  let digit ← digitValue? c
  let index := s.index + digit * s.weight
  guard (index < wordSize)
  let limit := threshold s.place s.bias
  if digit < limit then
    let size := s.out.length + 1
    let code := s.code + index / size
    let at_ := index % size
    guard (code.isValidChar)
    return {
      out := s.out.insertIdx at_ (Char.ofNat code)
      code
      index := at_ + 1
      start := at_ + 1
      bias := adapt (index - s.start) size (s.start == 0) }
  else
    let weight := s.weight * (36 - limit)
    guard (weight < wordSize)
    return { s with index, weight, place := s.place + 36 }

/-- The ASCII characters of a label and the digits behind them. -/
def parts (cs : List Char) : List Char × List Char :=
  let digits := (cs.reverse.takeWhile (· != '-')).reverse
  let front := cs.take (cs.length - digits.length - 1)
  if front.isEmpty then ([], cs) else (front, digits)

/-- The label that a text stands for. -/
def decode? (cs : List Char) : Option (List Char) := do
  let (front, digits) := parts cs
  let s ← digits.foldlM State.step? { out := front }
  guard (s.weight == 1 && s.place == 36)
  return s.out

end ElmAssist.Uri.Punycode
