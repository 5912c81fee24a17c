/-
  Shapes of message parameters.

  A `Shape` says what a JSON value has to look like.  `Shape.read?` checks a value
  and returns it with all unknown members removed, and with optional members
  removed that are `null`.  A record may also be written as the list of its
  fields, unless it is one of those that are put together from several records,
  which are always objects; a choice between texts may also be written as an object
  whose only member has the text as its key and `null` as its value.
-/
import ElmAssist.Uri.Basic

namespace ElmAssist.Server

/-- Whether a field has to be there. -/
inductive Presence where
  /-- It has to be there. -/
  | required
  /-- It may be missing or `null`; in a list it is not missing. -/
  | optional
  /-- It may be missing or `null`. -/
  | defaulted
  /-- It may be missing, but not `null`. -/
  | omissible
  deriving DecidableEq

/-- What a JSON value has to look like. -/
inductive Shape where
  /-- Any value. -/
  | any
  /-- A text. -/
  | text
  /-- One of some texts. -/
  | oneOf (texts : List String)
  /-- A text that is a URI. -/
  | uri
  /-- A Boolean. -/
  | truth
  /-- A signed integer of 32 bits. -/
  | int
  /-- An unsigned integer of 32 bits. -/
  | nat
  /-- Any number. -/
  | number
  /-- A list. -/
  | list (item : Shape)
  /-- Two items of one shape, in a list. -/
  | pair (item : Shape)
  /-- An object whose members are not fixed. -/
  | dictionary (key value : Shape)
  /-- One shape, or else another. -/
  | either (first second : Shape)
  /-- A record; each field has a name and a shape. -/
  | record (fields : List (String × Presence × Shape))
  /-- A record that has to be written as an object. -/
  | keyed (fields : List (String × Presence × Shape))
  /-- A record that has to be written as an object and may have other members, of one
      shape. -/
  | extended (fields : List (String × Presence × Shape)) (others : Shape)
  /-- One of several records, told apart by the value of a member, which names the case
      or gives its number; in a list this value comes first. -/
  | tagged (tag : String) (cases : List (String × Shape))

/-- The integer that a value denotes, if it is in a range. -/
def intWithin? (low high : Int) (j : Json) : Option Json :=
  (j.int?.filter fun i => low ≤ i && i ≤ high).map fun _ => j

/-- The value of a field; `null` is none if the field is optional. -/
def Presence.value? (presence : Presence) (value : Option Json) : Option Json :=
  match presence, value with
  | .optional, some .null | .defaulted, some .null => none
  | _, value => value

/-- The text that a choice names. -/
def choice? : Json → Option String
  | .string s => some s
  | .object [(key, .null)] => some key
  | _ => none

/-- The name of the case that a value tells, by its name or its number. -/
def caseName? (names : List String) (j : Json) : Option String :=
  j.string?.or (j.nat?.bind (names[·]?))

/-- Whether a value is a number. -/
def isNumber : Json → Bool
  | .number _ => true
  | _ => false

mutual

/-- Checks a value and removes what its shape does not mention. -/
def Shape.read? (shape : Shape) (j : Json) : Option Json :=
  match shape with
  | .any => some j
  | .text => j.string?.map fun _ => j
  | .oneOf texts => ((choice? j).filter texts.contains).map .string
  | .uri => (j.string?.bind Uri.parse?).map fun _ => j
  | .truth => j.bool?.map fun _ => j
  | .int => intWithin? (-2147483648) 2147483647 j
  | .nat => intWithin? 0 4294967295 j
  | .number => if isNumber j then some j else none
  | .list item => j.array?.bind fun items => (items.mapM (Shape.read? item)).map .array
  | .pair item =>
    (j.array?.filter (·.length == 2)).bind fun items => (items.mapM (Shape.read? item)).map .array
  | .dictionary key value =>
    j.object?.bind fun members => (members.mapM fun (m : String × Json) => do
      return (← (← Shape.read? key (.string m.1)).string?, ← Shape.read? value m.2)).map .object
  | .either first second => (Shape.read? first j).or (Shape.read? second j)
  | .record fields =>
    match j with
    | .object ms => (Shape.readMembers? fields ms).map .object
    | .array items => (Shape.readItems? fields items).map .object
    | _ => none
  | .keyed fields =>
    match j with
    | .object ms => (Shape.readMembers? fields ms).map .object
    | _ => none
  | .extended fields others =>
    match j with
    | .object ms => do
      let known ← Shape.readMembers? fields ms
      let rest ← (ms.filter fun m => !(fields.map (·.1)).contains m.1).mapM fun (m : String × Json) => do
        return (m.1, ← Shape.read? others m.2)
      return .object (known ++ rest)
    | _ => none
  | .tagged tag cases =>
    match j with
    | .object ms => ((Json.lookup ms tag).bind (caseName? (cases.map (·.1)))).bind fun name =>
      Shape.readCase? tag name cases j
    | .array (first :: rest) => (caseName? (cases.map (·.1)) first).bind fun name =>
      Shape.readCase? tag name cases (.array rest)
    | _ => none

/-- Checks the fields of a record written as an object. -/
def Shape.readMembers? (fields : List (String × Presence × Shape)) (ms : List (String × Json)) :
    Option (List (String × Json)) :=
  match fields with
  | [] => some []
  | (key, presence, shape) :: rest => do
    let others ← Shape.readMembers? rest ms
    match presence.value? (Json.lookup ms key) with
    | some value => return (key, ← Shape.read? shape value) :: others
    | none => if presence = .required then none else some others

/-- Checks the fields of a record written as a list. -/
def Shape.readItems? (fields : List (String × Presence × Shape)) (items : List Json) :
    Option (List (String × Json)) :=
  match fields, items with
  | [], [] => some []
  | (key, presence, shape) :: rest, value :: items => do
    let others ← Shape.readItems? rest items
    match presence.value? (some value) with
    | some value => return (key, ← Shape.read? shape value) :: others
    | none => return others
  | (_, presence, _) :: rest, [] =>
    if presence = .omissible || presence = .defaulted then Shape.readItems? rest [] else none
  | [], _ :: _ => none

/-- Checks a record against the case with a name. -/
def Shape.readCase? (tag name : String) (cases : List (String × Shape)) (j : Json) :
    Option Json :=
  match cases with
  | [] => none
  | (label, shape) :: rest =>
    if label = name then
      (Shape.read? shape j).bind fun value =>
        value.object?.map fun ms => .object ((tag, .string name) :: ms)
    else Shape.readCase? tag name rest j

end

/-- Whether a value has a shape. -/
def Shape.fits (shape : Shape) (j : Json) : Bool :=
  (shape.read? j).isSome

/-! ## Fields -/

/-- A field of a record: its name, whether it has to be there, and its shape. -/
abbrev FieldShape := String × Presence × Shape

namespace FieldShape

/-- A field that has to be there. -/
def required (key : String) (shape : Shape) : FieldShape := (key, .required, shape)

/-- A field that may be missing or `null`, but not missing in a list. -/
def optional (key : String) (shape : Shape) : FieldShape := (key, .optional, shape)

/-- A field that may be missing or `null`. -/
def defaulted (key : String) (shape : Shape) : FieldShape := (key, .defaulted, shape)

/-- A field that may be missing. -/
def omissible (key : String) (shape : Shape) : FieldShape := (key, .omissible, shape)

/-- Switches: Booleans that may be missing or `null`. -/
def switches (keys : List String) : List FieldShape := keys.map fun key => optional key .truth

end FieldShape

end ElmAssist.Server
