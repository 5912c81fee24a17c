/-
  Bytes that may not be UTF-8.

  `bytes` are the bytes of a text, and `text?` is the text of some bytes if they are
  UTF-8.  `decode` reads any bytes: functions say what stands for a character, and for
  what belongs to none.  `lossyText` puts the replacement character there.
-/

namespace ElmAssist.Text

/-- The bytes of a text in UTF-8. -/
def bytes (s : String) : List UInt8 :=
  s.toUTF8.data.toList

/-- The text of some bytes, if they are UTF-8. -/
def text? (bytes : List UInt8) : Option String :=
  String.fromUTF8? ⟨bytes.toArray⟩

/-- What may follow the first byte of a character outside ASCII: the number of bytes,
    and the least and the greatest value of the first of them. -/
def followers? (b : UInt8) : Option (Nat × UInt8 × UInt8) :=
  if 0xC2 ≤ b && b ≤ 0xDF then some (1, 0x80, 0xBF)
  else if b == 0xE0 then some (2, 0xA0, 0xBF)
  else if b == 0xED then some (2, 0x80, 0x9F)
  else if 0xE1 ≤ b && b ≤ 0xEF then some (2, 0x80, 0xBF)
  else if b == 0xF0 then some (3, 0x90, 0xBF)
  else if 0xF1 ≤ b && b ≤ 0xF3 then some (3, 0x80, 0xBF)
  else if b == 0xF4 then some (3, 0x80, 0x8F)
  else none

/-- The bytes at the front, at most `count`, that fit behind a first byte. -/
def fitting (count : Nat) (low high : UInt8) : List UInt8 → List UInt8
  | [] => []
  | b :: rest =>
    match count with
    | 0 => []
    | count + 1 =>
      if low ≤ b && b ≤ high then b :: fitting count 0x80 0xBF rest else []

/-- Reads some bytes.  Their characters become what `char` gives; the longest
    beginnings of characters that are broken off, and bytes that begin no character,
    become what `stray` gives. -/
def decode (char : Char → List Char) (stray : List UInt8 → List Char) (bytes : List UInt8) :
    List Char :=
  match bytes with
  | [] => []
  | b :: rest =>
    if b < 0x80 then char (Char.ofNat b.toNat) ++ decode char stray rest
    else
      match followers? b with
      | none => stray [b] ++ decode char stray rest
      | some (count, low, high) =>
        let tail := fitting count low high rest
        (match text? (b :: tail) with
          | some s => s.toList.flatMap char
          | none => stray (b :: tail)) ++ decode char stray (rest.drop tail.length)
termination_by bytes.length
decreasing_by all_goals simp_all; try omega

/-- The character that stands for what is no text. -/
def replacement : Char := Char.ofNat 0xFFFD

/-- The text of some bytes; what is not UTF-8 is replaced. -/
def lossyText (bytes : List UInt8) : String :=
  (text? bytes).getD (String.ofList (decode ([·]) (fun _ => [replacement]) bytes))

end ElmAssist.Text
