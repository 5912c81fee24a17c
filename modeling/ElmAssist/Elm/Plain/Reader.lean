/-
  Readers of token lists.

  A `Reader` takes tokens from the front of a list, or gives up.  It looks at the
  next token and never goes back.
-/
import ElmAssist.Elm.Plain.Token

namespace ElmAssist.Elm.Plain

/-- A reader of tokens. -/
abbrev Reader (α : Type) := StateT (List Token) Option α

namespace Reader

/-- Whether the next token satisfies `p`. -/
def ahead (p : Token → Bool) : Reader Bool :=
  fun ts => some (ts.head?.any p, ts)

/-- Reads a token that satisfies `p`. -/
def token (p : Token → Bool) : Reader Token
  | t :: rest => if p t then some (t, rest) else none
  | [] => none

/-- Reads a particular symbol. -/
def symbol (s : String) : Reader Unit :=
  discard (token (·.isSymbol s))

/-- Reads a particular word. -/
def word (w : String) : Reader Unit :=
  discard (token (·.isWord w))

/-- Reads a lower-case name. -/
def lower : Reader String :=
  (·.text) <$> token (·.isLowerName)

/-- Reads an upper-case name without dots. -/
def upper : Reader String :=
  (·.text) <$> token (·.isKind .upper)

/-- Reads a dotted or plain upper-case name. -/
def upperName : Reader String :=
  (·.text) <$> token (·.isUpperName)

/-- Repeats a reader as long as the next token satisfies `p`, at most `n` times. -/
def whileAhead {α : Type} (p : Token → Bool) (r : Reader α) : Nat → Reader (List α)
  | 0 => pure []
  | n + 1 => do
    if ← ahead p then
      let first ← r
      let rest ← whileAhead p r n
      return first :: rest
    else return []

/-- Reads one or more items with a symbol between them, at most `n + 1`. -/
def separated {α : Type} (separator : String) (item : Reader α) (n : Nat) : Reader (List α) := do
  let first ← item
  let rest ← whileAhead (·.isSymbol separator) (do symbol separator; item) n
  return first :: rest

/-- Runs a reader and returns the source text that it has read. -/
def sourceOf (r : Reader Unit) : Reader String :=
  fun ts => do
    let ((), rest) ← r ts
    return (Token.sourceText (ts.take (ts.length - rest.length)), rest)

end Reader

end ElmAssist.Elm.Plain
