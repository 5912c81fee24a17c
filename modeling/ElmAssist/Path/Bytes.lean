/-
  Paths that are no text.

  A file name is made of bytes, and these need not be UTF-8.  A path spells them by
  characters: a byte that belongs to no character is spelled by one of a block of
  characters for private use, and a character of this block by those for its own
  bytes, so that different bytes have different spellings.

  `Path.ofBytes` is the path that bytes spell, and `Path.bytes` gives them back.
  `Path.ofText` is the path that a text spells, and `Path.textOf?` gives it back.
  `Path.shown` is what a reader sees.
-/
import ElmAssist.Path.Basic
import ElmAssist.Text.Utf8

namespace ElmAssist.Path

/-- The first of the characters that spell a byte. -/
def firstByteChar : Nat := 0x10F800

/-- The character that spells a byte. -/
def byteChar (b : UInt8) : Char :=
  Char.ofNat (firstByteChar + b.toNat)

/-- Whether a character spells a byte. -/
def isByteChar (c : Char) : Bool :=
  firstByteChar ≤ c.toNat && c.toNat < firstByteChar + 256

/-- The spelling of a character. -/
def spellChar (c : Char) : List Char :=
  if isByteChar c then (String.utf8EncodeChar c).map byteChar else [c]

/-- The bytes that a character spells. -/
def charBytes (c : Char) : List UInt8 :=
  if isByteChar c then [UInt8.ofNat (c.toNat - firstByteChar)] else String.utf8EncodeChar c

/-- The spelling of a text. -/
def spell (text : String) : String :=
  String.ofList (text.toList.flatMap spellChar)

/-- The bytes that a name spells. -/
def bytesOf (name : String) : List UInt8 :=
  name.toList.flatMap charBytes

theorem bytesOf_append (s t : String) : bytesOf (s ++ t) = bytesOf s ++ bytesOf t := by
  rw [bytesOf, String.toList_append, List.flatMap_append]
  rfl

/-- The text that a name spells, if it spells one. -/
def textOf? (name : String) : Option String :=
  (Text.text? (bytesOf name)).filter (spell · == name)

/-- The path that a text spells. -/
def ofText (text : String) : Path :=
  ⟨spell text⟩

/-- The path that bytes spell. -/
def ofBytes (bytes : List UInt8) : Path :=
  match Text.text? bytes with
  | some text => ofText text
  | none => ⟨String.ofList (Text.decode spellChar (·.map byteChar) bytes)⟩

/-- The bytes of a path. -/
def bytes (p : Path) : List UInt8 :=
  bytesOf p.text

/-- The number of bytes of a path. -/
def size (p : Path) : Nat :=
  p.bytes.length

/-- Whether a path is text. -/
def isText (p : Path) : Bool :=
  (textOf? p.text).isSome

/-- A path as it is shown: what is no text is replaced. -/
def shown (p : Path) : String :=
  Text.lossyText p.bytes

end ElmAssist.Path
