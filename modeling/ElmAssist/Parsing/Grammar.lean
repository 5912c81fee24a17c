/-
  Grammars.

  A `Grammar` describes a language for the parser: its terminals with their
  patterns, the rules of its nonterminals, and the extras that may stand between
  any two tokens.  Terminals whose place depends on the layout of the text are
  `external`: they have no pattern and are recognised by a function of the
  language.

  A rule is a regular expression over symbols.  `Rule.alternatives` lists the
  sequences of steps that it stands for; repetitions are first moved into
  nonterminals of their own (`expand`).
-/
import ElmAssist.Parsing.Pattern

namespace ElmAssist.Parsing

/-! ## Terminals -/

/-- How a symbol appears in syntax trees. -/
inductive Appearance where
  /-- Not at all; the parts of a hidden symbol stand in its place. -/
  | hidden
  /-- As a mark that carries no meaning. -/
  | mark
  /-- As a node of a kind. -/
  | node (kind : String)
  deriving DecidableEq, Repr, Inhabited

/-- Whether a symbol is seen in syntax trees. -/
def Appearance.isVisible : Appearance → Bool
  | hidden => false
  | mark | node _ => true

/-- A terminal that is recognised by a pattern. -/
structure Terminal where
  name : String
  appearance : Appearance
  pattern : Pattern
  /-- The text, of a terminal with only one. -/
  text : Option String := none
  /-- Whether no blanks may stand in front of it. -/
  attached : Bool := false
  /-- Of two terminals that match the same text, the one of higher priority is
      read. -/
  priority : Nat := 0
  /-- Whether it is a word, read only where the grammar can take it. -/
  isKeyword : Bool := false
  /-- Whether it is looked for where a fault has been found. -/
  inFaults : Bool := true

/-- A terminal with only one text. -/
def Terminal.fixed (text : String) (name : String := text) (appearance : Appearance := .mark) :
    Terminal :=
  { name, appearance, pattern := .literal text, text := some text }

/-- A word that the grammar takes in some places. -/
def Terminal.keyword (text : String) (appearance : Appearance := .node text) : Terminal :=
  { Terminal.fixed text text appearance with isKeyword := true }

/-- The rank of a terminal among those that match the same text: first by its
    priority, then texts of one form before others, then attached ones. -/
def Terminal.rank (t : Terminal) : Nat :=
  4 * t.priority + (if t.text.isSome then 2 else 0) + (if t.attached then 1 else 0)

/-- A terminal that depends on the layout of the text. -/
structure External where
  name : String
  appearance : Appearance := .hidden

/-! ## Rules -/

/-- A symbol in a rule.  Rules of one nonterminal that differ in a label or a role
    are kept apart until they are complete. -/
structure Step where
  symbol : String
  /-- The kind that the symbol has here. -/
  label : Option String := none
  /-- What the symbol is for the node. -/
  role : Option String := none
  deriving DecidableEq, Repr, Inhabited

/-- The right side of a rule. -/
inductive Rule where
  /-- Nothing. -/
  | empty
  /-- A symbol. -/
  | step (step : Step)
  /-- One behind the other. -/
  | seq (first second : Rule)
  /-- One or the other. -/
  | alt (left right : Rule)
  /-- One or more. -/
  | many (body : Rule)
  deriving DecidableEq, Repr

namespace Rule

instance : Coe String Rule := ⟨fun name => step { symbol := name }⟩

/-- A symbol that has another kind here. -/
def labelled (kind symbol : String) : Rule :=
  step { symbol, label := some kind }

/-- A rule all of whose symbols have a role. -/
def withRole (role : String) : Rule → Rule
  | empty => empty
  | step s => step { s with role := some role }
  | seq a b => seq (a.withRole role) (b.withRole role)
  | alt a b => alt (a.withRole role) (b.withRole role)
  | many a => many (a.withRole role)

/-- Rules behind each other. -/
def inOrder : List Rule → Rule
  | [] => empty
  | [r] => r
  | r :: rest => seq r (inOrder rest)

/-- One of several rules. -/
def oneOf : List Rule → Rule
  | [] => empty
  | [r] => r
  | r :: rest => alt r (oneOf rest)

/-- A rule that may be left out. -/
def optional (r : Rule) : Rule :=
  alt r empty

/-- Any number of times. -/
def repeated (r : Rule) : Rule :=
  optional (many r)

/-- One or more items with a symbol between them. -/
def separatedBy (separator : String) (item : Rule) : Rule :=
  seq item (repeated (seq separator item))

/-- The sequences of steps that a rule without repetitions stands for. -/
def alternatives : Rule → List (List Step)
  | empty => [[]]
  | step s => [[s]]
  | seq a b => a.alternatives.flatMap fun x => b.alternatives.map (x ++ ·)
  | alt a b => a.alternatives ++ b.alternatives
  | many a => a.alternatives

end Rule

/-- The side on which operators of a rule associate. -/
inductive Side where
  | left
  | right
  deriving DecidableEq, Repr

/-- The definition of a nonterminal. -/
structure Definition where
  name : String
  rule : Rule
  appearance : Appearance := .node name
  /-- Of two rules that are complete at the same place, the one of higher
      precedence is taken. -/
  precedence : Nat := 0
  side : Option Side := none
  /-- Whether the nonterminal only repeats the rule of another. -/
  isRepetition : Bool := false

/-- A language. -/
structure Grammar where
  /-- The terminals; the first is the one that keywords look like. -/
  terminals : List Terminal
  externals : List External
  /-- The nonterminals; the first is that of whole texts. -/
  definitions : List Definition
  /-- What separates tokens. -/
  blank : Pattern
  /-- The terminals that may stand between any two tokens. -/
  extraTerminals : List String
  /-- The nonterminals that may stand between any two tokens. -/
  extraDefinitions : List String
  /-- Pairs of terminals of which the first is read where the second is meant,
      although the second could go on. -/
  clashes : List (String × String)
  /-- Terminals that are read where any other is meant. -/
  greedy : List String
  /-- Pairs of terminals of which the second is recognised wherever the first is
      expected. -/
  companions : List (String × String)

/-! ## Repetitions -/

/-- The nonterminals made for repetitions, last one first. -/
abbrev Repetitions := List Definition

/-- The nonterminal of a repetition of `body`, made for the definition `owner` if
    there is none yet. -/
def Repetitions.find (found : Repetitions) (owner : String) (body : Rule) : Rule × Repetitions :=
  let isSame := fun (d : Definition) =>
    match d.rule with
    | .alt _ r => r == body
    | _ => false
  match found.find? isSame with
  | some d => (d.name, found)
  | none =>
    let name := owner ++ "+" ++ toString found.length
    let rule := Rule.alt (.seq name name) body
    (name, { name, rule, appearance := .hidden, isRepetition := true } :: found)

/-- Moves the repetitions of a rule into nonterminals. -/
def Rule.expand (owner : String) : Rule → Repetitions → Rule × Repetitions
  | .empty, found => (.empty, found)
  | .step s, found => (.step s, found)
  | .seq a b, found =>
    let (a, found) := a.expand owner found
    let (b, found) := b.expand owner found
    (.seq a b, found)
  | .alt a b, found =>
    let (a, found) := a.expand owner found
    let (b, found) := b.expand owner found
    (.alt a b, found)
  | .many a, found =>
    let (a, found) := a.expand owner found
    found.find owner a

/-- Moves the repetitions of a definition into nonterminals.  A hidden definition
    that is a repetition becomes such a nonterminal itself. -/
def Definition.expand (d : Definition) (found : Repetitions) : Definition × Repetitions :=
  match d.appearance, d.rule with
  | .hidden, .many body =>
    let (body, found) := body.expand d.name found
    ({ d with rule := .alt (.seq d.name d.name) body, isRepetition := true }, found)
  | _, rule =>
    let (rule, found) := rule.expand d.name found
    ({ d with rule }, found)

/-- The definitions of a grammar without repetitions, followed by those made for
    the repetitions. -/
def Grammar.expand (g : Grammar) : List Definition :=
  let step := fun (state : List Definition × Repetitions) (d : Definition) =>
    let (d, found) := d.expand state.2
    (d :: state.1, found)
  let (definitions, found) := g.definitions.foldl step ([], [])
  definitions.reverse ++ found.reverse

end ElmAssist.Parsing
