/-
  Reading JSON.

  Reading has two steps.  `Raw.read?` checks the grammar on the bytes and gives a
  `Raw` tree, in which a text may be flawed (not valid UTF-8, or with half of a
  surrogate pair) and numbers and nesting have no limit.  `Raw.value?` then builds
  the value, and refuses flawed texts, numbers beyond the double-precision range
  and nesting deeper than its limit.  A reader that only skips a value needs the
  first step alone.
-/
import ElmAssist.Double
import ElmAssist.Json.Value

namespace ElmAssist.Json

/-- The bytes of a text. -/
abbrev Bytes := List UInt8

/-- A number as it is written. -/
structure NumberText where
  negative : Bool
  /-- The digits in front of the point. -/
  whole : Bytes
  /-- The digits behind the point. -/
  fraction : Bytes := []
  /-- The exponent: whether it is negative, and its digits. -/
  exponent : Option (Bool × Bytes) := none
  deriving DecidableEq, Repr

/-- The syntax tree of a JSON text. -/
inductive Raw where
  /-- The literal `null`. -/
  | null
  /-- A literal `true` or `false`. -/
  | bool (b : Bool)
  /-- A number of any size. -/
  | number (n : NumberText)
  /-- A string literal: its text, or `none` if it denotes no Unicode text. -/
  | string (s : Option String)
  /-- A list. -/
  | array (items : List Raw)
  /-- An object; keys are string literals. -/
  | object (members : List (Option String × Raw))
  deriving Repr, Inhabited

/-! ## Characters -/

/-- The byte of an ASCII character. -/
def byte (c : Char) : UInt8 :=
  c.toNat.toUInt8

/-- A blank between tokens. -/
def isSpace (b : UInt8) : Bool :=
  b == 0x20 || b == 0x09 || b == 0x0A || b == 0x0D

/-- The bytes behind the blanks at the start. -/
def skipSpace (bs : Bytes) : Bytes :=
  bs.dropWhile isSpace

/-- A decimal digit. -/
def isDigit (b : UInt8) : Bool :=
  byte '0' ≤ b && b ≤ byte '9'

/-- The value of a hexadecimal digit. -/
def hexValue? (b : UInt8) : Option Nat :=
  if isDigit b then some (b.toNat - 48)
  else if byte 'a' ≤ b && b ≤ byte 'f' then some (b.toNat - 87)
  else if byte 'A' ≤ b && b ≤ byte 'F' then some (b.toNat - 55)
  else none

/-! ## Strings -/

/-- A string literal as far as it has been read. -/
structure Literal where
  /-- The bytes of its text, last one first. -/
  bytes : Bytes := []
  /-- The first half of a surrogate pair that waits for the second. -/
  high : Option Nat := none
  /-- Whether half of a surrogate pair stood alone. -/
  flawed : Bool := false

namespace Literal

/-- Gives up waiting for the second half of a surrogate pair. -/
def settle (l : Literal) : Literal :=
  { l with high := none, flawed := l.flawed || l.high.isSome }

/-- Adds a byte. -/
def push (l : Literal) (b : UInt8) : Literal :=
  let l := l.settle
  { l with bytes := b :: l.bytes }

/-- Adds a character. -/
def pushChar (l : Literal) (n : Nat) : Literal :=
  let l := l.settle
  { l with bytes := (String.utf8EncodeChar (Char.ofNat n)).reverse ++ l.bytes }

/-- Adds a `\u` escape: a character, or one half of a surrogate pair. -/
def pushUnit (l : Literal) (n : Nat) : Literal :=
  if 0xD800 ≤ n && n ≤ 0xDBFF then { l.settle with high := some n }
  else if 0xDC00 ≤ n && n ≤ 0xDFFF then
    match l.high with
    | some h => { l with high := none }.pushChar (0x10000 + (h - 0xD800) * 0x400 + (n - 0xDC00))
    | none => { l with flawed := true }
  else l.pushChar n

/-- The text of a finished literal, if it denotes one. -/
def text? (l : Literal) : Option String :=
  let l := l.settle
  if l.flawed then none else String.fromUTF8? ⟨l.bytes.reverse.toArray⟩

end Literal

/-- The character that a one-letter escape stands for. -/
def escape? (b : UInt8) : Option UInt8 :=
  if b == byte '"' || b == byte '\\' || b == byte '/' then some b
  else if b == byte 'b' then some 0x08
  else if b == byte 'f' then some 0x0C
  else if b == byte 'n' then some 0x0A
  else if b == byte 'r' then some 0x0D
  else if b == byte 't' then some 0x09
  else none

/-- Reads a string literal behind its opening quote.  Control characters have to
    be escaped. -/
def stringBody (l : Literal) : Bytes → Option (Option String × Bytes)
  | [] => none
  | b :: rest =>
    if b == byte '"' then some (l.text?, rest)
    else if b == byte '\\' then
      match rest with
      | e :: rest =>
        if e == byte 'u' then
          match rest with
          | h₁ :: h₂ :: h₃ :: h₄ :: rest => do
            let d₁ ← hexValue? h₁
            let d₂ ← hexValue? h₂
            let d₃ ← hexValue? h₃
            let d₄ ← hexValue? h₄
            stringBody (l.pushUnit (d₁ * 4096 + d₂ * 256 + d₃ * 16 + d₄)) rest
          | _ => none
        else do
          let c ← escape? e
          stringBody (l.push c) rest
      | [] => none
    else if b < 0x20 then none
    else stringBody (l.push b) rest

/-! ## Numbers -/

/-- The value of a string of digits. -/
def digitsValue (ds : Bytes) : Nat :=
  ds.foldl (fun n d => 10 * n + (d.toNat - 48)) 0

/-- Reads the digits of a fraction, if a point follows. -/
def fraction? (bs : Bytes) : Option (Bytes × Bytes) :=
  match bs with
  | b :: rest =>
    if b == byte '.' then
      let ds := rest.takeWhile isDigit
      if ds.isEmpty then none else some (ds, rest.dropWhile isDigit)
    else some ([], bs)
  | [] => some ([], [])

/-- Reads an exponent behind its mark. -/
def exponentBody? (bs : Bytes) : Option ((Bool × Bytes) × Bytes) :=
  let signed := bs.head?.any fun b => b == byte '+' || b == byte '-'
  let digits := if signed then bs.tail else bs
  let ds := digits.takeWhile isDigit
  if ds.isEmpty then none
  else some ((bs.head? == some (byte '-'), ds), digits.dropWhile isDigit)

/-- Reads an exponent, if a mark follows. -/
def exponent? (bs : Bytes) : Option (Option (Bool × Bytes) × Bytes) :=
  match bs with
  | b :: rest =>
    if b == byte 'e' || b == byte 'E' then (exponentBody? rest).map fun (e, rest) => (some e, rest)
    else some (none, bs)
  | [] => some (none, [])

/-- Reads a number: no leading zero, and digits on both sides of a point. -/
def number? (bs : Bytes) : Option (NumberText × Bytes) := do
  let negative := bs.head? == some (byte '-')
  let bs := if negative then bs.tail else bs
  let whole := bs.takeWhile isDigit
  guard (!whole.isEmpty && (whole.length == 1 || whole.head? != some (byte '0')))
  let (fraction, rest) ← fraction? (bs.dropWhile isDigit)
  let (exponent, rest) ← exponent? rest
  return ({ negative, whole, fraction, exponent }, rest)

/-! ## Values -/

/-- Reads a keyword. -/
def keyword? (word : String) (value : Raw) (bs : Bytes) : Option (Raw × Bytes) :=
  (word.toUTF8.toList.isPrefixOf? bs).map fun rest => (value, rest)

mutual

/-- Reads a value.  The fuel bounds the number of steps; the length of the text
    is enough. -/
def readValue (fuel : Nat) (bs : Bytes) : Option (Raw × Bytes) :=
  match fuel with
  | 0 => none
  | fuel + 1 =>
    match skipSpace bs with
    | [] => none
    | b :: rest =>
      if b == byte '"' then (stringBody {} rest).map fun (s, rest) => (.string s, rest)
      else if b == byte '[' then
        match skipSpace rest with
        | [] => none
        | b :: rest' =>
          if b == byte ']' then some (.array [], rest')
          else (readItems fuel rest).map fun (items, rest) => (.array items, rest)
      else if b == byte '\x7b' then
        match skipSpace rest with
        | [] => none
        | b :: rest' =>
          if b == byte '\x7d' then some (.object [], rest')
          else (readMembers fuel rest).map fun (members, rest) => (.object members, rest)
      else if b == byte 'n' then keyword? "null" .null (b :: rest)
      else if b == byte 't' then keyword? "true" (.bool true) (b :: rest)
      else if b == byte 'f' then keyword? "false" (.bool false) (b :: rest)
      else (number? (b :: rest)).map fun (n, rest) => (.number n, rest)

/-- Reads the items of a list up to its closing bracket; there is at least one. -/
def readItems (fuel : Nat) (bs : Bytes) : Option (List Raw × Bytes) :=
  match fuel with
  | 0 => none
  | fuel + 1 => do
    let (item, rest) ← readValue fuel bs
    match skipSpace rest with
    | [] => none
    | b :: rest =>
      if b == byte ']' then some ([item], rest)
      else if b == byte ',' then
        let (items, rest) ← readItems fuel rest
        return (item :: items, rest)
      else none

/-- Reads the members of an object up to its closing brace; there is at least
    one. -/
def readMembers (fuel : Nat) (bs : Bytes) : Option (List (Option String × Raw) × Bytes) :=
  match fuel with
  | 0 => none
  | fuel + 1 =>
    match skipSpace bs with
    | [] => none
    | b :: rest => do
      guard (b == byte '"')
      let (key, rest) ← stringBody {} rest
      match skipSpace rest with
      | [] => none
      | b :: rest =>
        guard (b == byte ':')
        let (value, rest) ← readValue fuel rest
        match skipSpace rest with
        | [] => none
        | b :: rest =>
          if b == byte '\x7d' then some ([(key, value)], rest)
          else if b == byte ',' then
            let (members, rest) ← readMembers fuel rest
            return ((key, value) :: members, rest)
          else none

end

/-- Reads a text that holds one value and nothing else. -/
def Raw.read? (bs : Bytes) : Option Raw := do
  let (value, rest) ← readValue (2 * bs.length + 1) bs
  guard (skipSpace rest).isEmpty
  return value

/-! ## Building values -/

/-- The greatest significand. -/
def significandLimit : Nat := Nat.pow 2 64 - 1

/-- Digits read so far: a significand of 64 bits, and the power of ten it is
    multiplied by. -/
structure Significand where
  value : Nat := 0
  exponent : Int := 0
  /-- Whether a digit did not fit. -/
  full : Bool := false

/-- Adds a digit in front of the point.  Behind the first that does not fit, digits
    only count. -/
def Significand.addWhole (s : Significand) (d : UInt8) : Significand :=
  let value := 10 * s.value + (d.toNat - 48)
  if s.full || significandLimit < value then { s with exponent := s.exponent + 1, full := true }
  else { s with value }

/-- Adds the digits behind the point, up to the first that does not fit. -/
def Significand.addFraction (s : Significand) : Bytes → Significand
  | [] => s
  | d :: rest =>
    let value := 10 * s.value + (d.toNat - 48)
    if significandLimit < value then s
    else { s with value, exponent := s.exponent - 1 }.addFraction rest

/-- Multiplies a double by a power of ten in steps that are doubles themselves, at
    most `fuel` of them.  The result is `none` where it would be infinite. -/
def scale? : Nat → Double → Int → Option Double
  | 0, d, _ => some d
  | fuel + 1, d, exponent =>
    if exponent.natAbs ≤ 308 then do
      let power ← Double.powerOfTen? exponent.natAbs
      if 0 ≤ exponent then d.mul? power else d.div? power
    else if d.isZero then some d
    else if 0 ≤ exponent then none
    else do
      let power ← Double.powerOfTen? 308
      scale? fuel (← d.div? power) (exponent + 308)

/-- The greatest exponent that is looked at. -/
def exponentLimit : Nat := Nat.pow 2 31 - 1

/-- The double that a significand with a written exponent denotes. -/
def Significand.double? (s : Significand) (exponent : Option (Bool × Bytes)) : Option Double := do
  let (negative, digits) := exponent.getD (false, [])
  let size := digitsValue digits
  if exponentLimit < size then
    if s.value ≠ 0 ∧ !negative then none else some .zero
  else
    let d ← Double.ofFraction? ⟨s.value, 1⟩
    scale? 8 d (s.exponent + (if negative then -(size : Int) else size))

/-- A double as a number. -/
def Number.ofDouble (negative : Bool) (d : Double) : Number :=
  let x := d.shortest
  { negative, mantissa := x.digits, exponent := x.exponent, integral := false }

/-- The number that a text denotes: an integer of 64 bits, or a double.  It is
    `none` if it is too large for a double. -/
def NumberText.value? (t : NumberText) : Option Number :=
  let s := t.whole.foldl Significand.addWhole {}
  let isInteger := t.fraction.isEmpty && t.exponent.isNone && !s.full &&
    (!t.negative || (s.value != 0 && s.value ≤ Nat.pow 2 63))
  if isInteger then some { negative := t.negative, mantissa := s.value, exponent := 0, integral := true }
  else ((s.addFraction t.fraction).double? t.exponent).map (Number.ofDouble t.negative)

mutual

/-- The value of a syntax tree with at most `room` levels of lists and objects,
    if it has no flaw. -/
def Raw.value? (room : Nat) : Raw → Option Json
  | .null => some .null
  | .bool b => some (.bool b)
  | .number n => n.value?.map .number
  | .string s => s.map .string
  | .array items =>
    match room with
    | 0 => none
    | room + 1 => (Raw.values? room items).map .array
  | .object members =>
    match room with
    | 0 => none
    | room + 1 => (Raw.memberValues? room members).map .object

/-- The values of the items of a list. -/
def Raw.values? (room : Nat) : List Raw → Option (List Json)
  | [] => some []
  | item :: items => do
    let v ← Raw.value? room item
    let vs ← Raw.values? room items
    return v :: vs

/-- The values of the members of an object. -/
def Raw.memberValues? (room : Nat) : List (Option String × Raw) → Option (List (String × Json))
  | [] => some []
  | (key, item) :: members => do
    let k ← key
    let v ← Raw.value? room item
    let ms ← Raw.memberValues? room members
    return (k, v) :: ms

end

/-- The deepest nesting of lists and objects for which a value is built. -/
def maxDepth : Nat := 127

/-- The value that a JSON text denotes, if the text is well-formed and free of
    flaws. -/
def parse? (bs : Bytes) : Option Json :=
  (Raw.read? bs).bind (Raw.value? maxDepth)

end ElmAssist.Json
