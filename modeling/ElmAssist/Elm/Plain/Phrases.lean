/-
  Types and expressions.

  The readers only decide whether the tokens form a type or an expression; nothing of
  it is kept.  A type is built from names by application and arrows, an expression
  from names, numbers and strings by application, lists and operators; both may be
  put in parentheses.  `n` bounds the nesting and the number of parts.
-/
import ElmAssist.Elm.Plain.Reader

namespace ElmAssist.Elm.Plain

open Reader

/-! ## Types -/

/-- Whether a token starts a type that needs no parentheses. -/
def startsSingleType (t : Token) : Bool :=
  t.isUpperName || t.isLowerName || t.isSymbol "("

/-- A name, or a type in parentheses. -/
def singleType (inner : Reader Unit) : Reader Unit := do
  if ← ahead (·.isSymbol "(") then
    symbol "("
    inner
    symbol ")"
  else discard (token startsSingleType)

/-- An upper-case name with its arguments, or a single type. -/
def appliedType (inner : Reader Unit) (n : Nat) : Reader Unit := do
  if ← ahead (·.isUpperName) then
    let _ ← upperName
    let _ ← whileAhead (fun t => startsSingleType t && t.isSpaced) (singleType inner) n
  else singleType inner

/-- A type: applied types with arrows between them. -/
def type : Nat → Reader Unit
  | 0 => fun _ => none
  | n + 1 => discard (separated "->" (appliedType (type n) n) n)

/-! ## Expressions -/

/-- Whether a token is a name of a value. -/
def isValueName (t : Token) : Bool :=
  t.isLowerName || t.isUpperName || t.isKind .lowerPath

/-- Whether a token starts an atom. -/
def startsAtom (t : Token) : Bool :=
  isValueName t || t.isKind .number || t.isKind .string || t.isSymbol "(" || t.isSymbol "["

/-- A name, a number, a string, a list, or an expression in parentheses. -/
def atom (inner : Reader Unit) (n : Nat) : Reader Unit := do
  if ← ahead (·.isSymbol "(") then
    symbol "("
    inner
    symbol ")"
  else if ← ahead (·.isSymbol "[") then
    symbol "["
    if !(← ahead (·.isSymbol "]")) then
      let _ ← separated "," inner n
    symbol "]"
  else discard (token startsAtom)

/-- A name with its arguments, or one atom. -/
def operand (inner : Reader Unit) (n : Nat) : Reader Unit := do
  if ← ahead isValueName then
    let _ ← token isValueName
    let _ ← whileAhead (fun t => startsAtom t && t.isSpaced) (atom inner n) n
  else atom inner n

/-- Operands with operators between them. -/
def expression : Nat → Reader Unit
  | 0 => fun _ => none
  | n + 1 => do
    operand (expression n) n
    let _ ← whileAhead (·.isOperator) (do let _ ← token (·.isOperator); operand (expression n) n) n

end ElmAssist.Elm.Plain
