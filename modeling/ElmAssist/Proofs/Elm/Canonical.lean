/-
  Plainly written modules.

  A `Description` says what a module of simple declarations consists of.  `print` writes it
  out: the header, the imports and the declarations, each from the first column on, with
  documentation directly above.  A `Spacing` has the choices in doing so: blank lines,
  indentations and line breaks.

  `Description.module` is what the module means.  Names and texts carry the proofs that they
  can be written as such.
-/
import ElmAssist.Elm.Node
import ElmAssist.Elm.Plain.Lexeme

namespace ElmAssist.Elm.Canonical

open Plain (isWordPart)

/-! ## Names and texts -/

/-- Whether some characters are a word whose first letter satisfies `p`. -/
def isWord (p : Char → Bool) : List Char → Bool
  | [] => false
  | c :: rest => p c && rest.all isWordPart

/-- A lower-case name in ASCII that has no meaning of its own. -/
structure LowerName where
  text : String
  isName : isWord Char.isLower text.toList = true
  isOrdinary : isSpecialWord text = false

/-- An upper-case name in ASCII. -/
structure UpperName where
  text : String
  isName : isWord Char.isUpper text.toList = true

/-- Upper-case names with dots between them. -/
structure DottedName where
  first : UpperName
  rest : List UpperName := []

/-- The text of a documentation comment: it has no blanks at its ends and nothing in it that
    opens or closes a comment, or breaks it off. -/
structure DocText where
  text : String
  isTrimmed : Text.trim text = text
  opensNone : ¬ ['\x7b', '-'] <:+: text.toList
  closesNone : ¬ ['-', '\x7d'] <:+: text.toList
  hasNoNul : ∀ c ∈ text.toList, c.toNat ≠ 0

/-! ## Modules -/

/-- An entry of an exposing list. -/
inductive Exposed where
  | value (name : LowerName)
  /-- A type, with or without `(..)`. -/
  | type (name : UpperName) (constructors : Bool)

/-- An exposing list: everything, or one entry or more. -/
inductive ExposingList where
  | everything
  | entries (first : Exposed) (rest : List Exposed)

/-- An import clause. -/
structure ImportClause where
  moduleName : DottedName
  shortName : Option UpperName := none
  exposing : Option ExposingList := none

/-- A type of names with arrows between them. -/
structure Signature where
  first : DottedName
  rest : List DottedName := []

/-- A declaration with its documentation. -/
inductive Declaration where
  /-- A constant function, with or without an annotation. -/
  | function (doc : Option DocText) (signature : Option Signature) (name : LowerName)
  /-- A custom type, with one constructor or more. -/
  | customType (doc : Option DocText) (name first : UpperName) (rest : List UpperName)
  /-- Another name for a type. -/
  | typeAlias (doc : Option DocText) (name : UpperName) (type : DottedName)

/-- A module. -/
structure Description where
  name : DottedName
  exposing : ExposingList
  imports : List ImportClause := []
  declarations : List Declaration := []

/-! ## Printing -/

/-- What stands between two pieces of a declaration: a space, or a line break with the
    indentation of the next line, which is one more than the number. -/
def gap : Option Nat → List Char
  | none => [' ']
  | some indentation => '\n' :: List.replicate (indentation + 1) ' '

/-- The choices in printing a module. -/
structure Spacing where
  /-- The blank lines in front of the first import. -/
  aboveImports : Nat := 1
  /-- The blank lines between imports. -/
  betweenImports : Nat := 0
  /-- The blank lines in front of a declaration, in addition to one. -/
  aboveDeclarations : Nat := 1
  /-- The indentation of bodies, in addition to one. -/
  bodyIndentation : Nat := 3
  /-- What stands in front of the constructors of a custom type, and their signs. -/
  constructors : Option Nat := some 3
  /-- What stands in front of the type of a type alias. -/
  aliased : Option Nat := some 3
  /-- The line feeds at the end. -/
  atEnd : Nat := 1

/-- Some line feeds. -/
def lines (n : Nat) : List Char :=
  List.replicate n '\n'

def UpperName.chars (n : UpperName) : List Char := n.text.toList

def LowerName.chars (n : LowerName) : List Char := n.text.toList

def DottedName.chars (n : DottedName) : List Char :=
  n.first.chars ++ n.rest.flatMap fun part => '.' :: part.chars

def Exposed.chars : Exposed → List Char
  | value name => name.chars
  | type name constructors => name.chars ++ if constructors then "(..)".toList else []

def ExposingList.chars : ExposingList → List Char
  | everything => "exposing (..)".toList
  | entries first rest =>
    "exposing (".toList ++ first.chars ++ rest.flatMap (fun e => ", ".toList ++ e.chars) ++
      ")".toList

theorem ExposingList.chars_everything : chars .everything = "exposing (..)".toList :=
  rfl

theorem ExposingList.chars_entries (first : Exposed) (rest : List Exposed) :
    chars (.entries first rest) = "exposing (".toList ++ first.chars ++
      rest.flatMap (fun e => ", ".toList ++ e.chars) ++ ")".toList :=
  rfl

def shortNameChars : Option UpperName → List Char
  | some short => " as ".toList ++ short.chars
  | none => []

theorem shortNameChars_some (short : UpperName) :
    shortNameChars (some short) = " as ".toList ++ short.chars :=
  rfl

def importedChars : Option ExposingList → List Char
  | some exposing => ' ' :: exposing.chars
  | none => []

def ImportClause.chars (i : ImportClause) : List Char :=
  "import ".toList ++ i.moduleName.chars ++ shortNameChars i.shortName ++ importedChars i.exposing

theorem ImportClause.chars_eq (i : ImportClause) :
    i.chars = "import ".toList ++ i.moduleName.chars ++ shortNameChars i.shortName ++
      importedChars i.exposing :=
  rfl

def Signature.chars (s : Signature) : List Char :=
  s.first.chars ++ s.rest.flatMap fun type => " -> ".toList ++ type.chars

/-- A documentation comment, with the line feed behind it. -/
def docChars : Option DocText → List Char
  | some doc => "\x7b-| ".toList ++ doc.text.toList ++ "\n-\x7d\n".toList
  | none => []

theorem docChars_some (doc : DocText) :
    docChars (some doc) = "\x7b-| ".toList ++ doc.text.toList ++ "\n-\x7d\n".toList :=
  rfl

/-- The line of an annotation. -/
def annotationChars (name : LowerName) : Option Signature → List Char
  | some signature => name.chars ++ " : ".toList ++ signature.chars ++ "\n".toList
  | none => []

theorem annotationChars_none (name : LowerName) : annotationChars name none = [] :=
  rfl

theorem annotationChars_some (name : LowerName) (s : Signature) :
    annotationChars name (some s) = name.chars ++ " : ".toList ++ s.chars ++ "\n".toList :=
  rfl

def Declaration.chars (l : Spacing) : Declaration → List Char
  | function doc signature name =>
    docChars doc ++ annotationChars name signature ++ name.chars ++ " =".toList ++
      gap (some l.bodyIndentation) ++ "0".toList
  | customType doc name first rest =>
    docChars doc ++ "type ".toList ++ name.chars ++ gap l.constructors ++ "= ".toList ++
      first.chars ++ rest.flatMap fun c => gap l.constructors ++ "| ".toList ++ c.chars
  | typeAlias doc name type =>
    docChars doc ++ "type alias ".toList ++ name.chars ++ " =".toList ++ gap l.aliased ++ type.chars

section Declarations

variable (l : Spacing) (doc : Option DocText)

theorem Declaration.chars_function (signature : Option Signature) (name : LowerName) :
    chars l (.function doc signature name) = docChars doc ++ annotationChars name signature ++
      name.chars ++ " =".toList ++ gap (some l.bodyIndentation) ++ "0".toList :=
  rfl

theorem Declaration.chars_customType (name first : UpperName) (rest : List UpperName) :
    chars l (.customType doc name first rest) = docChars doc ++ "type ".toList ++ name.chars ++
      gap l.constructors ++ "= ".toList ++ first.chars ++
        rest.flatMap fun c => gap l.constructors ++ "| ".toList ++ c.chars :=
  rfl

theorem Declaration.chars_typeAlias (name : UpperName) (type : DottedName) :
    chars l (.typeAlias doc name type) = docChars doc ++ "type alias ".toList ++ name.chars ++
      " =".toList ++ gap l.aliased ++ type.chars :=
  rfl

end Declarations

/-- The imports, each behind its line feeds; the first one has more of them. -/
def importChars (l : Spacing) : List ImportClause → List Char
  | [] => []
  | first :: rest =>
    lines (l.aboveImports + 1) ++ first.chars ++
      rest.flatMap fun i => lines (l.betweenImports + 1) ++ i.chars

/-- The text of a module. -/
def Description.print (l : Spacing) (d : Description) : String :=
  String.ofList ("module ".toList ++ d.name.chars ++ ' ' :: d.exposing.chars ++
    importChars l d.imports ++
    d.declarations.flatMap (fun decl => lines (l.aboveDeclarations + 2) ++ decl.chars l) ++
    lines l.atEnd)

example :
    Description.print {} {
      name := ⟨⟨"Set", by decide⟩, []⟩
      exposing := .everything
      imports := [{ moduleName := ⟨⟨"Dict", by decide⟩, []⟩, shortName := some ⟨"D", by decide⟩ }]
      declarations := [.function none (some ⟨⟨⟨"Set", by decide⟩, []⟩, []⟩)
        ⟨"empty", by decide, by decide⟩] } =
      "module Set exposing (..)\n\nimport Dict as D\n\n\nempty : Set\nempty =\n    0\n" :=
  rfl

/-! ## Meaning -/

def DottedName.text (n : DottedName) : String :=
  String.ofList n.chars

def Exposed.item : Exposed → ExposedItem
  | value name => .value name.text
  | type name constructors => .type name.text constructors

def ExposingList.exposing : ExposingList → Exposing
  | everything => .all
  | entries first rest => .explicit ((first :: rest).map (·.item))

def ImportClause.import (i : ImportClause) : Import :=
  ⟨i.moduleName.text, i.shortName.map (·.text), i.exposing.map (·.exposing)⟩

def Signature.text (s : Signature) : String :=
  String.ofList s.chars

def Declaration.function? : Declaration → Option Function
  | function doc signature name => some ⟨name.text, signature.map (·.text), doc.map (·.text)⟩
  | _ => none

def Declaration.customType? : Declaration → Option CustomType
  | customType doc name first rest =>
    some ⟨name.text, (first :: rest).map (·.text), doc.map (·.text)⟩
  | _ => none

def Declaration.typeAlias? : Declaration → Option TypeAlias
  | typeAlias doc name _ => some ⟨name.text, doc.map (·.text)⟩
  | _ => none

/-- The module that is described. -/
def Description.module (d : Description) : Module where
  name := d.name.text
  exposing := d.exposing.exposing
  imports := d.imports.map (·.import)
  functions := d.declarations.filterMap (·.function?)
  types := d.declarations.filterMap (·.customType?)
  aliases := d.declarations.filterMap (·.typeAlias?)

end ElmAssist.Elm.Canonical
