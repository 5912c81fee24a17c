/-
  Numeric addresses of hosts.

  An address of version 4 is written as up to four numbers with dots between them,
  the last of which fills the remaining bytes; a number may be decimal, octal or
  hexadecimal.  An address of version 6 is written as eight groups of hexadecimal
  digits with colons between them.  One `::` stands for groups that are zero, and
  the last two groups may be written as an address of version 4.
-/
import ElmAssist.Text.Split

namespace ElmAssist.Uri

/-! ## Numbers -/

/-- The value of a hexadecimal digit. -/
def digitValue? (c : Char) : Option Nat :=
  if c.isDigit then some (c.toNat - 48)
  else if 'a' ≤ c && c ≤ 'f' then some (c.toNat - 87)
  else if 'A' ≤ c && c ≤ 'F' then some (c.toNat - 55)
  else none

/-- The number that digits denote in a base, if they are digits of it. -/
def number? (base : Nat) (cs : List Char) : Option Nat :=
  cs.foldlM (fun n c => (digitValue? c).bind fun d => if d < base then some (n * base + d) else none) 0

/-! ## Version 4 -/

/-- The value of one part of an address; `0x` starts a hexadecimal number and `0`
    an octal one. -/
def part? : List Char → Option Nat
  | [] => none
  | '0' :: x :: rest =>
    if x == 'x' || x == 'X' then number? 16 rest else number? 8 (x :: rest)
  | cs => number? 10 cs

/-- The parts of a name between its dots, without an empty one at the end. -/
def dottedParts (cs : List Char) : List (List Char) :=
  let parts := Text.splitList '.' cs
  if parts.getLast? == some [] then parts.dropLast else parts

/-- Whether a host name is meant as an address: its last part is a number. -/
def endsInNumber (cs : List Char) : Bool :=
  match (dottedParts cs).getLast? with
  | some last => !last.isEmpty && (last.all Char.isDigit || (part? last).isSome)
  | none => false

/-- The number of values of some bytes. -/
def bytePower (bytes : Nat) : Nat :=
  bytes.repeat (· * 256) 1

/-- The address of version 4 that a host name denotes. -/
def version4? (cs : List Char) : Option Nat := do
  let numbers ← (dottedParts cs).mapM part?
  let last ← numbers.getLast?
  let front := numbers.dropLast
  guard (front.length ≤ 3 && front.all (· ≤ 255) && last < bytePower (4 - front.length))
  return front.zipIdx.foldl (fun acc (n, i) => acc + n * bytePower (3 - i)) last

/-! ## Version 6 -/

/-- A group of one to four hexadecimal digits. -/
def group? (cs : List Char) : Option Nat :=
  if 1 ≤ cs.length && cs.length ≤ 4 then number? 16 cs else none

/-- A byte as a decimal number without leading zeros. -/
def byte? (cs : List Char) : Option Nat :=
  if cs.isEmpty || (cs.head? == some '0' && 1 < cs.length) then none
  else (number? 10 cs).filter (· ≤ 255)

/-- The last two groups, written as an address of version 4. -/
def embedded? (cs : List Char) : Option (List Nat) := do
  match ← (Text.splitList '.' cs).mapM byte? with
  | [a, b, c, d] => return [a * 256 + b, c * 256 + d]
  | _ => none

/-- The groups of a text between its colons; `final` tells whether the last of them
    may be an address of version 4. -/
def groups? (final : Bool) (cs : List Char) : Option (List Nat) :=
  if cs.isEmpty then some []
  else do
    let parts := Text.splitList ':' cs
    let front ← parts.dropLast.mapM group?
    let last := parts.getLast?.getD []
    return front ++ (← if final && last.contains '.' then embedded? last
      else (group? last).map fun n => [n])

/-- The text before and behind the first `::`. -/
def cutGap? : List Char → Option (List Char × List Char)
  | ':' :: ':' :: rest => some ([], rest)
  | c :: rest => (cutGap? rest).map fun (front, back) => (c :: front, back)
  | [] => none

/-- The groups of an address of version 6. -/
def version6? (cs : List Char) : Option (List Nat) :=
  match cutGap? cs with
  | none => (groups? true cs).filter (·.length == 8)
  | some (front, back) => do
    let front ← groups? false front
    let back ← groups? true back
    let missing := 8 - (front.length + back.length)
    guard (front.length + back.length ≤ 7)
    return front ++ List.replicate missing 0 ++ back

end ElmAssist.Uri
