/-
  Percent escapes.

  A character that may not stand for itself in some part of a URI is written there
  as the bytes of its UTF-8 form, each as a percent sign and two hexadecimal digits.
  `escape` writes a text in this way, given the characters to be escaped, and
  `unescape` gives the bytes that an escaped text stands for.
-/
import ElmAssist.Json.Reader

namespace ElmAssist.Uri

/-! ## Sets of characters -/

/-- Characters that are escaped everywhere: controls and all outside ASCII. -/
def isControl (c : Char) : Bool :=
  c.toNat < 0x20 || 0x7F ≤ c.toNat

/-- Characters that are escaped in a fragment. -/
def escapedInFragment (c : Char) : Bool :=
  isControl c || " \"<>\x60".toList.contains c

/-- Characters that are escaped in a segment of a path. -/
def escapedInPath (c : Char) : Bool :=
  escapedInFragment c || "#?\x7b\x7d".toList.contains c

/-- Characters that are escaped in a user name or a password. -/
def escapedInUser (c : Char) : Bool :=
  escapedInPath c || "/:;=@[\\]^|".toList.contains c

/-- Characters that are escaped in a query. -/
def escapedInQuery (c : Char) : Bool :=
  isControl c || " \"#<>".toList.contains c

/-! ## Writing -/

/-- A hexadecimal digit in upper case. -/
def hexDigit (n : Nat) : Char :=
  if n < 10 then Char.ofNat (48 + n) else Char.ofNat (55 + n)

/-- A byte as a percent escape. -/
def escapeByte (b : UInt8) : List Char :=
  ['%', hexDigit (b.toNat / 16), hexDigit (b.toNat % 16)]

/-- A text with the characters of a set escaped. -/
def escape (escaped : Char → Bool) (cs : List Char) : List Char :=
  cs.flatMap fun c =>
    if escaped c then (String.utf8EncodeChar c).flatMap escapeByte else [c]

/-! ## Reading -/

/-- The bytes of a text with its percent escapes decoded; a percent sign that
    starts no escape stands for itself. -/
def unescape : List UInt8 → List UInt8
  | 0x25 :: a :: b :: rest =>
    match Json.hexValue? a, Json.hexValue? b with
    | some x, some y => (x * 16 + y).toUInt8 :: unescape rest
    | _, _ => 0x25 :: unescape (a :: b :: rest)
  | b :: rest => b :: unescape rest
  | [] => []

end ElmAssist.Uri
