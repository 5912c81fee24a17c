/-
  Hosts.

  The host of a URI is a name or a numeric address.  In the well-known schemes its
  percent escapes are decoded and the name is brought into its normal form, and a
  name that ends in a number has to be an address; in all other schemes the name is
  kept as it is written.
-/
import ElmAssist.Text.Utf8
import ElmAssist.Uri.Address
import ElmAssist.Uri.Escape
import ElmAssist.Uri.Name

namespace ElmAssist.Uri

/-- The host of a URI. -/
inductive Host where
  /-- A name. -/
  | name (text : String)
  /-- An address of version 4. -/
  | version4 (address : Nat)
  /-- An address of version 6, by its groups. -/
  | version6 (groups : List Nat)
  deriving DecidableEq, Repr

namespace Host

/-- Whether a host is the machine itself: it is not given, or named so. -/
def isLocal (h : Host) : Bool :=
  h = .name "" || h = .name "localhost"

/-- An address in brackets. -/
def bracketed? (cs : List Char) : Option Host := do
  guard (cs.getLast? == some ']')
  return .version6 (← version6? (cs.drop 1).dropLast)

/-- The host of a well-known scheme. -/
def wellKnown? (cs : List Char) : Option Host := do
  if cs.head? == some '[' then bracketed? cs
  else
    let decoded ← Text.text? (unescape (String.ofList cs).toUTF8.toList)
    let name ← Name.ofChars? decoded.toList
    guard (!name.isEmpty)
    if endsInNumber name then return .version4 (← version4? name)
    else return .name (String.ofList name)

/-- The characters that stand in no host. -/
def isExcluded (c : Char) : Bool :=
  "\x00\t\n\r #/:<>?@[\\]^|".toList.contains c

/-- The host of any other scheme; it may be empty. -/
def plain? (cs : List Char) : Option Host :=
  if cs.head? == some '[' then bracketed? cs
  else if cs.any isExcluded then none
  else some (.name (String.ofList (escape isControl cs)))

end Host

end ElmAssist.Uri
