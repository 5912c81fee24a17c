/-
  Uniform resource identifiers.

  Editors name documents by URIs.  `Uri.parse?` reads one and brings it into a
  normal form, so that two spellings of a document are equal: the scheme and the
  host are in lower case, the usual port of the scheme is left out, `.` and `..` are
  resolved, and what may not stand for itself is escaped.  In a `file` URI the host
  `localhost` is the same as none.

  `Uri.filePath?` is the file that a URI names on this machine, its escapes decoded.
-/
import ElmAssist.Path.Bytes
import ElmAssist.Uri.Host
import ElmAssist.Uri.Segment

namespace ElmAssist

namespace Uri

/-- Who is asked for a resource. -/
structure Authority where
  /-- The user name and the password, escaped, with a colon between them. -/
  user : String
  host : Host
  /-- The port, if it is not the usual one. -/
  port : Option Nat
  deriving DecidableEq, Repr

/-- Where a resource lies. -/
inductive Place where
  /-- The segments of a path, which stand behind slashes. -/
  | segments (names : List String)
  /-- A text without structure. -/
  | text (s : String)
  deriving DecidableEq, Repr

end Uri

/-- A URI in normal form. -/
structure Uri where
  scheme : String
  authority : Option Uri.Authority
  place : Uri.Place
  query : Option String
  fragment : Option String
  deriving DecidableEq, Repr

namespace Uri

/-! ## Schemes -/

/-- The well-known schemes other than `file`, with their usual ports. -/
def webSchemes : List (String × Nat) :=
  [("http", 80), ("https", 443), ("ws", 80), ("wss", 443), ("ftp", 21)]

/-- Whether a scheme is well-known. -/
def isWellKnown (scheme : String) : Bool :=
  scheme == "file" || (webSchemes.lookup scheme).isSome

/-- A character of a scheme behind its first letter. -/
def isSchemeChar (c : Char) : Bool :=
  c.isAlphanum || c == '+' || c == '-' || c == '.'

/-! ## Authorities -/

/-- The user name and password in front of a host, escaped.  A colon without a
    password is left out. -/
def userText (cs : List Char) : String :=
  let (name, password) := cut (· == ':') cs
  let name := escape escapedInUser name
  let password := escape escapedInUser password.tail
  String.ofList (if password.isEmpty then name else name ++ ':' :: password)

/-- An authority cut behind its last `@`, if it has one. -/
def cutUser (cs : List Char) : Option (List Char) × List Char :=
  let host := (cs.reverse.takeWhile (· != '@')).reverse
  if host.length = cs.length then (none, cs)
  else (some (cs.take (cs.length - host.length - 1)), host)

/-- A host and what follows from the colon of its port; a colon in brackets belongs
    to the host. -/
def cutPort (inside : Bool) : List Char → List Char × List Char
  | [] => ([], [])
  | c :: rest =>
    if c == ':' && !inside then ([], c :: rest)
    else
      let (host, port) := cutPort (if c == '[' then true else if c == ']' then false else inside) rest
      (c :: host, port)

/-- The port behind a host, if there is one, and what stands behind it. -/
def port? (cs : List Char) : Option (Option Nat × List Char) :=
  match cs with
  | ':' :: cs =>
    let (digits, rest) := cut (!Char.isDigit ·) cs
    let value := digits.foldl (fun n c => n * 10 + (c.toNat - 48)) 0
    if 65535 < value || !(rest.isEmpty || rest.head? == some '\\') then none
    else some (if digits.isEmpty then none else some value, rest)
  | _ => some (none, cs)

/-- Reads an authority: who is asked, and what stands behind the port.  Neither a
    user name nor a port goes without a host. -/
def authority? (scheme : String) (atEnd : Bool) (cs : List Char) :
    Option (Authority × List Char) := do
  let (user, rest) := cutUser cs
  guard (atEnd || user != some [] || !rest.isEmpty)
  let user := userText (user.getD [])
  let (host, port) := cutPort false rest
  let wellKnown := isWellKnown scheme
  guard (!host.isEmpty || (!wellKnown && port.isEmpty && user.isEmpty))
  let host ← if wellKnown then Host.wellKnown? host else Host.plain? host
  let (port, rest) ← port? port
  return (⟨user, host, port.filter fun n => webSchemes.lookup scheme != some n⟩, rest)

/-! ## Reading -/

/-- The authority and the place of a `file` URI.  It has no user and no port, and a
    path that starts at a drive leaves no host.  Behind an empty host or `localhost`
    the slash of the path counts as a segment, behind another one it does not. -/
def fileBody? (body : List Sign) : Option (Option Authority × Place) :=
  let placed := fun (host : Option Host) (path : List Sign) =>
    let (segments, onDrive) := fileSegments path
    let host := if onDrive then none else host
    some (host.map fun host => Authority.mk "" host none, Place.segments segments)
  match body with
  | a :: b :: rest =>
    if a.separates && b.separates then
      let (host, path) := cut Sign.separates rest
      let host := charsOf host
      if isDrive host then placed none rest
      else if host.isEmpty then placed none path
      else do
        let host ← Host.wellKnown? host
        if host.isLocal then placed none path else placed host path.tail
    else placed none (if a.separates then b :: rest else body)
  | _ => placed none (body.filter (!·.separates))

/-- The authority and the place of a URI with another well-known scheme. -/
def webBody? (scheme : String) (body : List Char) : Option (Option Authority × Place) := do
  let separator := isSeparator true
  let (authority, path) := cut separator (body.dropWhile separator)
  let (authority, _) ← authority? scheme false authority
  return (some authority, .segments (segmentsOf true path))

/-- The authority and the place of a URI with any other scheme; `atEnd` tells whether
    nothing follows them. -/
def plainBody? (scheme : String) (atEnd : Bool) (body : List Char) :
    Option (Option Authority × Place) :=
  match body with
  | '/' :: '/' :: rest => do
    let (authority, path) := cut (· == '/') rest
    let (authority, extra) ← authority? scheme (atEnd && path.isEmpty) authority
    let path := extra ++ path
    return (some authority, if path.isEmpty then .text "" else .segments (segmentsOf false path))
  | '/' :: _ => some (none, .segments (segmentsOf false body))
  | _ => some (none, .text (String.ofList (escape isControl body)))

/-- Reads a URI. -/
def parse? (s : String) : Option Uri := do
  let signs := signsOf s.toList
  let cs := charsOf signs
  guard (cs.head?.any Char.isAlpha)
  let (schemeChars, rest) := cut (!isSchemeChar ·) cs
  guard (rest.head? == some ':')
  let scheme := (String.ofList schemeChars).toLower
  let (front, fragment) := cut (· == '#') rest.tail
  let (body, query) := cut (· == '?') front
  let (authority, place) ←
    if scheme == "file" then fileBody? ((signs.drop (schemeChars.length + 1)).take body.length)
    else if isWellKnown scheme then webBody? scheme body
    else plainBody? scheme (query.isEmpty && fragment.isEmpty) body
  let inQuery := fun c => escapedInQuery c || (isWellKnown scheme && c == '\'')
  let part := fun (escaped : Char → Bool) (cs : List Char) =>
    if cs.isEmpty then none else some (String.ofList (escape escaped cs.tail))
  return ⟨scheme, authority, place, part inQuery query, part escapedInFragment fragment⟩

/-! ## Files -/

/-- The bytes of the path of a file on this machine.  A path that ends with a drive
    gets a slash behind it. -/
def fileBytes? (u : Uri) : Option (List UInt8) :=
  match u.place with
  | .segments names =>
    if u.authority.all (·.host.isLocal) then
      let bytes := names.flatMap fun s => 0x2F :: unescape s.toUTF8.toList
      let ending := (bytes.drop (bytes.length - 2)).map fun b => Char.ofNat b.toNat
      some (if 2 < bytes.length && isDrive ending then bytes ++ [0x2F] else bytes)
    else none
  | .text _ => none

/-- The file that a URI names. -/
def filePath? (u : Uri) : Option Path :=
  u.fileBytes?.map Path.ofBytes

end Uri

end ElmAssist
