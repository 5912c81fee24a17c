/-
  JSON values.

  Numbers are kept as decimals, members of objects in the order in which they
  were written.  Where a key occurs twice the later member counts, which is what
  `get?` returns.
-/

namespace ElmAssist

/-- A decimal number `± mantissa · 10 ^ exponent`. -/
structure Json.Number where
  /-- Whether the number is written with a minus sign. -/
  negative : Bool
  /-- The digits, read without the decimal point. -/
  mantissa : Nat
  /-- The power of ten that places the decimal point. -/
  exponent : Int
  /-- Whether the number is written without fraction and exponent. -/
  integral : Bool
  deriving DecidableEq, Repr

/-- A JSON value. -/
inductive Json where
  /-- The value `null`. -/
  | null
  /-- One of the values `true` and `false`. -/
  | bool (b : Bool)
  /-- A number. -/
  | number (n : Json.Number)
  /-- A text. -/
  | string (s : String)
  /-- A list of values. -/
  | array (items : List Json)
  /-- The members of an object, in order. -/
  | object (members : List (String × Json))
  deriving Repr, Inhabited

namespace Json

/-- A natural number as a value. -/
def ofNat (n : Nat) : Json :=
  .number ⟨false, n, 0, true⟩

/-- An integer as a value. -/
def ofInt (i : Int) : Json :=
  .number ⟨i < 0, i.natAbs, 0, true⟩

/-- A text as a value, `null` if there is none. -/
def ofOption (s : Option String) : Json :=
  match s with
  | some s => .string s
  | none => .null

/-- The value of the last member with a key. -/
def lookup (members : List (String × Json)) (key : String) : Option Json :=
  (members.reverse.find? (·.1 == key)).map (·.2)

/-- The member of an object with a key; other values have none. -/
def get? (key : String) : Json → Option Json
  | object members => lookup members key
  | _ => none

/-- The text of a string value. -/
def string? : Json → Option String
  | string s => some s
  | _ => none

/-- The truth value of a Boolean. -/
def bool? : Json → Option Bool
  | bool b => some b
  | _ => none

/-- The items of a list. -/
def array? : Json → Option (List Json)
  | array items => some items
  | _ => none

/-- The members of an object. -/
def object? : Json → Option (List (String × Json))
  | object members => some members
  | _ => none

/-- The integer that a number written without fraction and exponent denotes. -/
def int? : Json → Option Int
  | number n => if n.integral then some (if n.negative then -n.mantissa else n.mantissa) else none
  | _ => none

/-- The natural number that a number written without sign, fraction and exponent
    denotes. -/
def nat? : Json → Option Nat
  | number n => if n.integral && !n.negative then some n.mantissa else none
  | _ => none

end Json

end ElmAssist
