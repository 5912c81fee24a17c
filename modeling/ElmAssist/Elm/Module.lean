/-
  Elm modules as completion sees them: the header, the imports and the names,
  types and documentation of the top-level declarations.  Bodies are not kept.

  The look-up functions (`Module.function?` and its neighbours) return the first
  declaration with a name.
-/

namespace ElmAssist.Elm

/-! ## Exposing lists -/

/-- One entry of an exposing list. -/
inductive ExposedItem where
  /-- A value or function. -/
  | value (name : String)
  /-- A type, with its constructors if it is written `Type(..)`. -/
  | type (name : String) (constructors : Bool)
  /-- An operator. -/
  | operator (symbol : String)
  deriving DecidableEq, Repr

/-- What a header exposes, or an import brings into scope. -/
inductive Exposing where
  /-- Everything: `exposing (..)`. -/
  | all
  /-- The listed items. -/
  | explicit (items : List ExposedItem)
  deriving DecidableEq, Repr

/-- Whether an item is the value `name`. -/
def ExposedItem.isValue (name : String) : ExposedItem → Bool
  | value n => n == name
  | _ => false

/-- Whether an item is the type `name`, and then whether its constructors are
    exposed with it. -/
def ExposedItem.opens? (name : String) : ExposedItem → Option Bool
  | type n constructors => if n == name then some constructors else none
  | _ => none

/-- Whether a value is exposed. -/
def Exposing.exposesValue (name : String) : Exposing → Bool
  | all => true
  | explicit items => items.any (·.isValue name)

/-- `some true` for a type exposed with its constructors, `some false` for a type
    exposed by name only, `none` for a type that is not exposed.  The first entry
    for the type decides. -/
def Exposing.exposesType? (name : String) : Exposing → Option Bool
  | all => some true
  | explicit items => items.findSome? (·.opens? name)

/-! ## Imports and declarations -/

/-- An import clause. -/
structure Import where
  moduleName : String
  /-- The name given to the module by an `as` clause. -/
  shortName : Option String := none
  exposing : Option Exposing := none
  deriving DecidableEq, Repr

/-- A top-level function or port. -/
structure Function where
  name : String
  /-- The annotated type, on one line. -/
  signature : Option String := none
  /-- The body of the documentation comment. -/
  comment : Option String := none
  deriving DecidableEq, Repr

/-- A custom type with the names of its constructors. -/
structure CustomType where
  name : String
  constructors : List String := []
  comment : Option String := none
  deriving DecidableEq, Repr

/-- A type alias. -/
structure TypeAlias where
  name : String
  comment : Option String := none
  deriving DecidableEq, Repr

/-- The name of a module whose file has no header. -/
def defaultModuleName : String := "Main"

/-- A parsed module. -/
structure Module where
  name : String := defaultModuleName
  exposing : Exposing := .all
  imports : List Import := []
  functions : List Function := []
  types : List CustomType := []
  aliases : List TypeAlias := []
  deriving DecidableEq, Repr

namespace Module

/-- The function or port with a name. -/
def function? (m : Module) (name : String) : Option Function :=
  m.functions.find? (·.name == name)

/-- The custom type with a name. -/
def customType? (m : Module) (name : String) : Option CustomType :=
  m.types.find? (·.name == name)

/-- The type alias with a name. -/
def typeAlias? (m : Module) (name : String) : Option TypeAlias :=
  m.aliases.find? (·.name == name)

/-- The custom type that declares a constructor. -/
def typeOfConstructor? (m : Module) (name : String) : Option CustomType :=
  m.types.find? (·.constructors.contains name)

end Module

end ElmAssist.Elm
